import Lusbip.Session.Bearers
import Lusbip.Session.Teardown

/-!
# What answered URBs leave behind

The handler records the URBs at the bulk workers, the workers keep the requests that are pending,
and all of it should be gone once a URB has been answered and nothing that mentions its sequence
number is queued any more. It is not: an unlink of a bulk-IN URB adds its number to
`cancelledBulkInSeqnums`, and only an event of the URB removes it again. A worker that takes the
`Unlink` while the URB is pending sends no event, so the number stays, and the reply to the next URB
under it is not written.

`Settles` is what a step has to keep to. No worker gives up a URB of a cancelled number unless an
event under that number is queued, and none is told that its URB is withdrawn while it reads for it.
-/

namespace Lusbip

open Lib.Transition Lib.Withdrawals
open InWorker (Halted Tidy)

namespace Connection

/-- Nothing is on the books under the sequence number. -/
structure Clean (c : Connection) (seqnum : UInt32) : Prop where
  bulkIn : c.bulkInSeqnums seqnum = none
  bulkOut : c.bulkOutSeqnums seqnum = none
  cancelled : seqnum ∉ c.cancelledBulkInSeqnums
  pendingOut : seqnum ∉ c.pendingBulkOut
  workers : ∀ ep w, c.ins ep = some w → seqnum ∉ w.pending.seqnums ∧ w.requests seqnum = none ∧
    w.activeSeqnum ≠ some seqnum

instance (c : Connection) (seqnum : UInt32) : Decidable (c.Awaited seqnum) :=
  inferInstanceAs (Decidable (∃ event ∈ c.inEvents, event.seqnum = seqnum))

instance (c : Connection) (seqnum : UInt32) : Decidable (c.Quiet seqnum) :=
  have : Decidable (∀ ep, ∀ w ∈ c.ins ep, ∀ command ∈ w.queue, command.seqnum ≠ seqnum) :=
    ConnectionTask.decidableForallAddress fun ep =>
      inferInstanceAs (Decidable (∀ w ∈ c.ins ep, ∀ command ∈ w.queue, command.seqnum ≠ seqnum))
  have : Decidable (∀ ep, ∀ w ∈ c.outs ep, ∀ command ∈ w.queue,
      command.seqnum? ≠ some seqnum) :=
    ConnectionTask.decidableForallAddress fun ep =>
      inferInstanceAs (Decidable (∀ w ∈ c.outs ep, ∀ command ∈ w.queue,
        command.seqnum? ≠ some seqnum))
  decidable_of_iff (_ ∧ _ ∧ (∀ event ∈ c.inEvents, event.seqnum ≠ seqnum) ∧
      ∀ event ∈ c.outEvents, event.seqnum ≠ seqnum)
    ⟨fun h => ⟨h.1, h.2.1, h.2.2.1, h.2.2.2⟩,
      fun h => ⟨h.inCommands, h.outCommands, h.inEvents, h.outEvents⟩⟩

/-- The worker that an action moves, if it may give up URBs, and its move. -/
def mover (c : Connection) : Action → Option (InWorker × InMove)
  | .inOpened endpoint maxPacketSize =>
      (c.ins endpoint).map fun w => (w, .opened maxPacketSize)
  | .inCommand endpoint => (c.ins endpoint).map fun w => (w, .command)
  | .inBarrier endpoint => do
      let w ← c.ins endpoint
      let result ← c.barrierResult w
      some (w, .barrierResult result)
  | _ => none

/-- Where no command mentions a number, all that stands under it is what is pending. -/
theorem Quiet.word {c : Connection} {k : UInt32} {ep : UInt8} {w : InWorker} (h : c.Quiet k)
    (hw : c.ins ep = some w) :
    w.word k = ((w.requests k).map fun request => some request.urb).toList := by
  have hnone : w.queue.flatMap (·.mark k) = [] := by
    refine List.flatMap_eq_nil_iff.mpr fun command hm => ?_
    have hne := h.inCommands ep w hw command hm
    cases command with
    | submit request => exact if_neg hne
    | unlink seqnum => exact if_neg hne
  rw [InWorker.word, hnone, List.append_nil]

end Connection

namespace Bookkeeping

/-- A sequence number that has no bearer, and is mentioned nowhere, is on no books; and a URB that
    has got such a number will have its reply written. -/
structure LeavesNothing (s : Bookkeeping) : Prop where
  clean : s.conn.InSession → ∀ k, s.bearer k = none → s.conn.Quiet k → s.conn.Clean k
  anew : ∀ k, s.anew k → s.bearer k ≠ none →
    shouldWriteBulkInResponse s.conn.cancelledBulkInSeqnums k = true

/-- What a move gives up is not what the worker reads for, and is cancelled only if an event will take
    its number off `cancelledBulkInSeqnums`. -/
def Spares (s : Bookkeeping) (m : InWorker × InMove) : Prop :=
  ∀ k ∈ m.1.dropped m.2, m.1.activeSeqnum ≠ some k ∧
    (k ∈ s.conn.cancelledBulkInSeqnums → s.conn.Awaited k)

def Settles (s : Bookkeeping) : Action → Prop
  | .unlink _ unlinkSeqnum => ∀ ep ∈ s.conn.bulkInSeqnums unlinkSeqnum,
      (∀ w ∈ s.conn.ins ep, w.phase = .stopped) → s.conn.Awaited unlinkSeqnum
  | a => ∀ m ∈ s.conn.mover a, s.Spares m

-- Along the list that is given up: sequence numbers are too many to try them all.
instance (s : Bookkeeping) (m : InWorker × InMove) : Decidable (s.Spares m) :=
  List.decidableBAll (fun k => m.1.activeSeqnum ≠ some k ∧
    (k ∈ s.conn.cancelledBulkInSeqnums → s.conn.Awaited k)) (m.1.dropped m.2)

instance (s : Bookkeeping) : ∀ a : Action, Decidable (Fresh s a)
  | .submit command =>
      inferInstanceAs (Decidable (s.conn.device ≠ none → s.bearer command.header.seqnum = none))
  | .unlink _ _ | .importRequest | .shutdownSent _ | .importDone _ | .deliverIn | .deliverOut
  | .controlFlush _ | .controlResult | .execute _ | .inFlush _ | .inBarrier _ | .inOpened _ _
  | .inCommand _ | .inCompletion _ _ | .outMove _ _ => isTrue trivial

instance (s : Bookkeeping) : ∀ a : Action, Decidable (Settles s a)
  | .unlink _ unlinkSeqnum =>
      @Option.decidableForallMem UInt8
        (fun ep => (∀ w ∈ s.conn.ins ep, w.phase = .stopped) → s.conn.Awaited unlinkSeqnum) _
        (s.conn.bulkInSeqnums unlinkSeqnum)
  | .inOpened endpoint maxPacketSize =>
      inferInstanceAs (Decidable (∀ m ∈ s.conn.mover (.inOpened endpoint maxPacketSize), s.Spares m))
  | .inCommand endpoint =>
      inferInstanceAs (Decidable (∀ m ∈ s.conn.mover (.inCommand endpoint), s.Spares m))
  | .inBarrier endpoint =>
      inferInstanceAs (Decidable (∀ m ∈ s.conn.mover (.inBarrier endpoint), s.Spares m))
  | .submit _ | .importRequest | .shutdownSent _ | .importDone _ | .deliverIn | .deliverOut
  | .controlFlush _ | .controlResult | .execute _ | .inFlush _ | .inCompletion _ _ | .outMove _ _ =>
      isTrue fun _ h => nomatch h

variable {prof : Profile} {s t : Bookkeeping} {a : Action} {k : UInt32} {ep : UInt8} {urb : Urb}
  {w w' : InWorker}

/-! ## The invariant -/

structure Kept (s : Bookkeeping) : Prop where
  routed : s.conn.Routed
  pendingOut : s.conn.PendingRecorded
  workers : ∀ ep w, s.conn.ins ep = some w → w.Halted ∨ w.Tidy
  sent : ∀ ep w, s.conn.ins ep = some w → w.Tidy → ∀ event ∈ s.conn.inEvents,
    some event.urb ∉ w.word event.seqnum
  recordedIn : ∀ k ep, s.conn.bulkInSeqnums k = some ep →
    ∃ urb, s.bearer k = some urb ∧ urb.ep = ep ∧ ep &&& 0x80 = 0x80
  recordedOut : ∀ k ep, s.conn.bulkOutSeqnums k = some ep →
    ∃ urb, s.bearer k = some urb ∧ urb.ep = ep ∧ ep &&& 0x80 ≠ 0x80
  /-- A request that has not been withdrawn is of the bearer. -/
  exposed : ∀ ep w k urb, s.conn.ins ep = some w → w.Tidy → Open (w.word k) urb →
    s.bearer k = some urb
  /-- What the handler serves itself is on no books. -/
  serving : ∀ command urb remaining awaiting,
    s.conn.phase = .serving command urb remaining awaiting →
      s.conn.bulkInSeqnums command.header.seqnum = none ∧
        s.conn.bulkOutSeqnums command.header.seqnum = none ∧
        ∀ ep w urb', s.conn.ins ep = some w → w.Tidy →
          ¬ Open (w.word command.header.seqnum) urb'
  cancelled : s.conn.InSession → ∀ k ∈ s.conn.cancelledBulkInSeqnums, s.conn.Awaited k ∨
    ∃ ep w, s.conn.ins ep = some w ∧ w.Tidy ∧ Owed (w.word k)
  known : s.conn.InSession → ∀ k ep, s.conn.bulkInSeqnums k = some ep → s.conn.Awaited k ∨
    ∃ w, s.conn.ins ep = some w ∧ (w.Halted ∨ w.Tidy ∧ ∃ urb, Open (w.word k) urb)
  anew : ∀ k, s.anew k → s.bearer k ≠ none → k ∉ s.conn.cancelledBulkInSeqnums

theorem kept_init : Kept {} where
  routed := Connection.routed_init
  pendingOut k h := by simp at h
  workers _ _ h := nomatch h
  sent _ _ h := nomatch h
  recordedIn _ _ h := nomatch h
  recordedOut _ _ h := nomatch h
  exposed _ _ _ _ h := nomatch h
  serving _ _ _ _ h := nomatch h
  cancelled _ k h := by simp at h
  known _ _ _ h := nomatch h
  anew _ h := h.elim

/-- A sequence number without a bearer is recorded nowhere, and no worker is to answer it. -/
theorem Kept.unborne (h : Kept s) (hb : s.bearer k = none) : s.conn.bulkInSeqnums k = none ∧
    s.conn.bulkOutSeqnums k = none ∧
      ∀ ep w urb, s.conn.ins ep = some w → w.Tidy → ¬ Open (w.word k) urb := by
  refine ⟨?_, ?_, fun ep w urb hw htidy hopen => ?_⟩
  · cases hs : s.conn.bulkInSeqnums k with
    | none => rfl
    | some ep =>
      obtain ⟨urb, hurb, -⟩ := h.recordedIn k ep hs
      cases hb.symm.trans hurb
  · cases hs : s.conn.bulkOutSeqnums k with
    | none => rfl
    | some ep =>
      obtain ⟨urb, hurb, -⟩ := h.recordedOut k ep hs
      cases hb.symm.trans hurb
  · cases hb.symm.trans (h.exposed ep w k urb hw htidy hopen)

theorem Kept.clean (h : Kept s) (hin : s.conn.InSession) (hb : s.bearer k = none)
    (hq : s.conn.Quiet k) : s.conn.Clean k := by
  obtain ⟨hrecorded, hout, hclosed⟩ := h.unborne hb
  refine ⟨hrecorded, hout, fun hk => ?_, fun hk => h.pendingOut k hk hout, fun ep w hw => ?_⟩
  · rcases h.cancelled hin k hk with ⟨event, hm, hevent⟩ | ⟨ep, w, hw, htidy, hurb, howed⟩
    · exact hq.inEvents event hm hevent
    · rw [hq.word hw] at howed
      have hlen := howed.length_le
      cases hr : w.requests k <;> simp [hr] at hlen
  · rcases h.workers ep w hw with hhalted | htidy
    · exact ⟨by simp [hhalted.pending], hhalted.requests k, by simp [hhalted.active]⟩
    · have hnone : w.requests k = none := by
        cases hr : w.requests k with
        | none => rfl
        | some request =>
          refine absurd ?_ (hclosed ep w request.urb hw htidy)
          rw [hq.word hw, hr]
          rfl
      have hpending : k ∉ w.pending.seqnums := by
        intro hm
        have hsome := (htidy.filed.filed k).mp hm
        rw [hnone] at hsome
        cases hsome
      exact ⟨hpending, hnone, fun hactive => hpending (htidy.active k hactive).2⟩

theorem Kept.leavesNothing (h : Kept s) : LeavesNothing s where
  clean hin _ hb hq := h.clean hin hb hq
  anew k hk hb := decide_eq_true (h.anew k hk hb)

/-! ## What becomes of a worker -/

/-- What a step that settles makes of the IN worker of an endpoint. -/
inductive Change (s t : Bookkeeping) (a : Action) (ep : UInt8) : InWorker → Prop where
  | started (w : InWorker) (ha : ∃ outcome, a = .importDone outcome) (hw : w.Tidy)
      (hword : ∀ k, w.word k = []) : Change s t a ep w
  | halted (v w : InWorker) (hv : s.conn.ins ep = some v) (hw : w.Halted)
      (howed : v.Tidy → ∀ k ∈ s.conn.cancelledBulkInSeqnums, Owed (v.word k) → s.conn.Awaited k) :
      Change s t a ep w
  | told (v : InWorker) (command : BulkInCommand) (hv : s.conn.ins ep = some v) (hw : v.Tidy)
      (hc : Connection.TellsIn s.conn a ep command) : Change s t a ep (v.push command)
  | went (v w : InWorker) (hv : s.conn.ins ep = some v) (htidy : v.Tidy) (hw : w.Tidy)
      (hword : ∀ k, Taken (fun _ => t.conn.Awaited k)
        (k ∈ s.conn.cancelledBulkInSeqnums → s.conn.Awaited k) (v.word k) (w.word k)) :
      Change s t a ep w

/-- A worker gives up only what the step allows. -/
theorem Settles.dropped (hs : Settles s a) {move : InMove} (ha : a = move.action ep)
    (hw : s.conn.ins ep = some w)
    (hb : ∀ result, move = .barrierResult result → s.conn.barrierResult w = some result) :
    ∀ k ∈ w.dropped move, w.activeSeqnum ≠ some k ∧
      (k ∈ s.conn.cancelledBulkInSeqnums → s.conn.Awaited k) := by
  subst ha
  cases move with
  | opened maxPacketSize =>
    exact hs (w, .opened maxPacketSize) (by simp [InMove.action, Connection.mover, hw])
  | command => exact hs (w, .command) (by simp [InMove.action, Connection.mover, hw])
  | flushSent sender =>
    intro k hk
    cases hk
  | barrierResult result =>
    refine hs (w, .barrierResult result) ?_
    simp [InMove.action, Connection.mover, hw, hb result rfl]
  | completion result =>
    intro k hk
    cases hk

theorem Kept.moved (h : Kept s) (hs : Settles s a) {move : InMove} {events : List BulkInEvent}
    (ha : a = move.action ep) (hw : s.conn.ins ep = some w) (hst : w.step move = some (w', events))
    (hb : ∀ result, move = .barrierResult result → s.conn.barrierResult w = some result) :
    w.Tidy ∧ (InWorker.Leaves move w w' events ∨ InWorker.Halts move w w' events) := by
  rcases h.workers ep w hw with hhalted | htidy
  · cases (InWorker.step_of_stopped hhalted.phase move).symm.trans hst
  · exact ⟨htidy, htidy.step hst fun k hk => (hs.dropped ha hw hb k hk).1⟩

theorem Kept.change (h : Kept s) (hs : Settles s a) (he : Connection.Effect prof s.conn a t.conn)
    (hw : t.conn.ins ep = some w) : Change s t a ep w := by
  -- A worker that has ended owes no word to anybody.
  have hhalts : ∀ v : InWorker, v.Halted → ∀ k ∈ s.conn.cancelledBulkInSeqnums, v.Tidy →
      Owed (v.word k) → s.conn.Awaited k :=
    fun v hv _ _ htidy => absurd hv.phase htidy.running
  cases he.in hw with
  | started device opens ha hp w hw =>
    obtain ⟨-, rfl⟩ := Connection.startBulkInWorkers_eq_some.mp hw
    exact .started _ ⟨_, ha⟩ (InWorker.tidy_start _ _) fun k => rfl
  | kept w hw =>
    rcases h.workers ep w hw with hhalted | htidy
    · exact .halted w w hw hhalted fun htidy k hk => hhalts w hhalted k hk htidy
    · exact .went w w hw htidy htidy fun k => .refl _
  | told w command hw' hc =>
    rcases h.workers ep w hw' with hhalted | htidy
    · exact .halted w _ hw' (hhalted.push command) fun htidy k hk => hhalts w hhalted k hk htidy
    · exact .told w command hw' htidy hc
  | flushing w seqnum len hw' ha hp =>
    have hst : w.step (.flushSent ⟨s.conn.nextReply, s.conn.clock⟩) = some
        ({ w with phase := .barrier seqnum len (some ⟨s.conn.nextReply, s.conn.clock⟩) }, []) := by
      simp only [InWorker.step, hp]
    have ha' : a = InMove.action ep (.flushSent ⟨s.conn.nextReply, s.conn.clock⟩) := ha
    obtain ⟨htidy, hleaves⟩ := h.moved hs ha' hw' hst (by
      intro result hmove
      cases hmove)
    -- A step leaves the word of each number one command shorter, or ends the worker.
    rcases hleaves with hleaves | hstops
    · exact .went w _ hw' htidy hleaves.tidy fun k => .refl _
    · cases hstops.halted.phase
  | moved v v' move events hw' ha hst hb =>
    obtain ⟨htidy, hleaves⟩ := h.moved hs ha hw' hst hb
    have hdropped := hs.dropped ha hw' hb
    rcases hleaves with hleaves | hstops
    · refine .went v _ hw' htidy hleaves.tidy fun k => (hleaves.word k).mono ?_ fun hk =>
        (hdropped k hk).2
      rintro urb ⟨event, hm, hk, -⟩
      refine ⟨event, ?_, hk⟩
      rw [he.moved_events hw' ha hst hb]
      exact List.mem_append_right _ hm
    · exact .halted v _ hw' hstops.halted fun _ k hk howed =>
        (hdropped k (hstops.word k howed)).2 hk

/-! ## A step -/

theorem Kept.mine (h : Kept s) (hw : s.conn.ins ep = some w) (hm : some urb ∈ w.word k) :
    urb.ep = ep ∧ ep &&& 0x80 = 0x80 ∧ urb.index < s.conn.clock := by
  obtain ⟨request, hr, rfl⟩ := InWorker.mem_word hm
  obtain ⟨hbit, -, hmine⟩ := h.routed.ins ep w hw
  exact ⟨(hmine request hr).1, hbit, (hmine request hr).2⟩

theorem Kept.side_in (h : Kept s) (hb : s.bearer k = some urb)
    (hs : s.conn.bulkInSeqnums k = some ep) : urb.ep = ep ∧ urb.ep &&& 0x80 = 0x80 := by
  obtain ⟨urb', hb', hep, hbit⟩ := h.recordedIn k ep hs
  cases hb.symm.trans hb'
  exact ⟨hep, hep ▸ hbit⟩

theorem Kept.side_out (h : Kept s) (hb : s.bearer k = some urb)
    (hs : s.conn.bulkOutSeqnums k = some ep) : urb.ep = ep ∧ urb.ep &&& 0x80 ≠ 0x80 := by
  obtain ⟨urb', hb', hep, hbit⟩ := h.recordedOut k ep hs
  cases hb.symm.trans hb'
  exact ⟨hep, hep ▸ hbit⟩

/-- The bearer of a number that a worker is to answer stays while nothing else is asked of it. -/
theorem Kept.bearer_exposed (h : Kept s) (hf : Fresh s a) (hstep : step prof s a = some t)
    {v : InWorker} (hv : s.conn.ins ep = some v) (htidy : v.Tidy) (hopen : Open (v.word k) urb)
    (hw : t.conn.ins ep = some w) (hopen' : Open (w.word k) urb) : t.bearer k = some urb := by
  have hb := h.exposed ep v k urb hv htidy hopen
  obtain ⟨hep, hbit, -⟩ := h.mine hv hopen.mem
  rcases bearer_kept hstep h.routed hf hb with hb | hends
  · exact hb
  · cases hends with
    | deliveredIn event he hk hu ht =>
      -- Its event has been sent, so it stands in no word.
      refine absurd hopen.mem ?_
      rw [← hk, ← hu]
      exact h.sent ep v hv htidy event he
    | deliveredOut event he hk hu ht =>
      rw [← hep, ← hu] at hbit
      exact absurd hbit (h.routed.outEvents event he).1
    | handled a command remaining awaiting hp hk =>
      rw [← hk] at hopen
      exact absurd hopen ((h.serving command urb remaining awaiting hp).2.2 ep v urb hv htidy)
    | unlinkedIn header endpoint hs ht =>
      -- The worker has been told, and the number is not exposed any more.
      cases hep.symm.trans (h.side_in hb hs).1
      have htold := (Connection.step_unlinkIn (step_eq_some hstep).1 hs).2 v hv htidy.running
      cases hw.symm.trans htold
      rw [InWorker.word_push, BulkInCommand.mark, if_pos rfl] at hopen'
      exact absurd hopen' not_open_snoc
    | unlinkedOut header endpoint hs ht =>
      rw [← hep] at hbit
      exact absurd hbit (h.side_out hb hs).2
    | imported outcome =>
      rw [((step_effect hstep).importDone_eq rfl).1] at hw
      obtain ⟨outWorker, rfl⟩ := Connection.importDone_ins hw
      exact absurd hopen' not_open_nil

theorem Kept.exposed_step (h : Kept s) (hf : Fresh s a) (hs : Settles s a)
    (hstep : step prof s a = some t) : ∀ ep w k urb, t.conn.ins ep = some w → w.Tidy →
      Open (w.word k) urb → t.bearer k = some urb := by
  intro ep w k urb hw htidy hopen
  cases h.change hs (step_effect hstep) hw with
  | started w ha hw' hword =>
    rw [hword] at hopen
    exact absurd hopen not_open_nil
  | halted v w hv hhalted howed => exact absurd hhalted.phase htidy.running
  | told v command hv hv' hc =>
    rcases InWorker.open_push hopen with ⟨request, rfl, rfl, rfl⟩ | hopen'
    · -- The URB that has just come is the bearer.
      cases hc with
      | submit command hp hdir => exact bearer_submitted hstep h.routed (h.routed.device _ v hv)
    · exact h.bearer_exposed hf hstep hv hv' hopen' hw hopen
  | went v w hv hv' hw' hword =>
    exact h.bearer_exposed hf hstep hv hv' ((hword k).open_before hopen) hw hopen

theorem Kept.workers_step (h : Kept s) (hf : Fresh s a) (hs : Settles s a)
    (hstep : step prof s a = some t) :
    ∀ ep w, t.conn.ins ep = some w → w.Halted ∨ w.Tidy := by
  intro ep w hw
  cases h.change hs (step_effect hstep) hw with
  | started w ha hw' hword => exact Or.inr hw'
  | halted v w hv hhalted howed => exact Or.inl hhalted
  | told v command hv hv' hc =>
    cases hc with
    | submit command hp hdir =>
      have hclosed := (h.unborne (hf (h.routed.device _ v hv))).2.2
      refine Or.inr (hv'.push_submit (fun urb => hclosed _ v urb hv hv') fun hm => ?_)
      exact Nat.lt_irrefl _ (h.mine hv hm).2.2
    | unlink header unlinkSeqnum endpoint hp hrecorded => exact Or.inr (hv'.push_unlink _)
  | went v w hv hv' hw' hword => exact Or.inr hw'

theorem Kept.recordedIn_step (h : Kept s) (hf : Fresh s a) (hstep : step prof s a = some t) :
    ∀ k ep, t.conn.bulkInSeqnums k = some ep →
      ∃ urb, t.bearer k = some urb ∧ urb.ep = ep ∧ ep &&& 0x80 = 0x80 := by
  intro k ep hrecorded
  have he := step_effect hstep
  rcases he.recordedIn hrecorded with hold | ⟨command, w, rfl, rfl, rfl, hd, -, hw, -⟩
  · -- A bearer on this side is answered on this side, and its record goes with it.
    obtain ⟨urb, hb, hep, hbit⟩ := h.recordedIn k ep hold
    refine ⟨urb, ?_, hep, hbit⟩
    rcases bearer_kept hstep h.routed hf hb with hb' | hends
    · exact hb'
    · cases hends with
      | deliveredIn event he' hk hu ht => cases ht.symm.trans hrecorded
      | deliveredOut event he' hk hu ht =>
        rw [← hep, ← hu] at hbit
        exact absurd hbit (h.routed.outEvents event he').1
      | handled a command remaining awaiting hp hk =>
        rw [← hk] at hold
        cases (h.serving command urb remaining awaiting hp).1.symm.trans hold
      | unlinkedIn header endpoint hs ht => cases ht.symm.trans hrecorded
      | unlinkedOut header endpoint hs ht =>
        rw [← hep] at hbit
        exact absurd hbit (h.side_out hb hs).2
      | imported outcome =>
        rw [(he.importDone_eq rfl).1] at hrecorded
        cases outcome <;> cases hrecorded
  · exact ⟨_, bearer_submitted hstep h.routed hd, rfl, (h.routed.ins _ w hw).1⟩

theorem Kept.recordedOut_step (h : Kept s) (hf : Fresh s a) (hstep : step prof s a = some t) :
    ∀ k ep, t.conn.bulkOutSeqnums k = some ep →
      ∃ urb, t.bearer k = some urb ∧ urb.ep = ep ∧ ep &&& 0x80 ≠ 0x80 := by
  intro k ep hrecorded
  have he := step_effect hstep
  rcases he.recordedOut hrecorded with hold | ⟨command, w, rfl, rfl, rfl, hd, -, hw⟩
  · obtain ⟨urb, hb, hep, hbit⟩ := h.recordedOut k ep hold
    refine ⟨urb, ?_, hep, hbit⟩
    rcases bearer_kept hstep h.routed hf hb with hb' | hends
    · exact hb'
    · cases hends with
      | deliveredIn event he' hk hu ht =>
        rw [← hep, ← hu] at hbit
        exact absurd (h.routed.inEvents event he').1 hbit
      | deliveredOut event he' hk hu ht => cases ht.symm.trans hrecorded
      | handled a command remaining awaiting hp hk =>
        rw [← hk] at hold
        cases (h.serving command urb remaining awaiting hp).2.1.symm.trans hold
      | unlinkedIn header endpoint hs ht =>
        rw [← hep] at hbit
        exact absurd (h.side_in hb hs).2 hbit
      | unlinkedOut header endpoint hs ht => cases ht.symm.trans hrecorded
      | imported outcome =>
        rw [(he.importDone_eq rfl).1] at hrecorded
        cases outcome <;> cases hrecorded
  · exact ⟨_, bearer_submitted hstep h.routed hd, rfl, (h.routed.outs _ w hw).1⟩

theorem Kept.serving_step (h : Kept s) (hf : Fresh s a) (hs : Settles s a)
    (hstep : step prof s a = some t) : ∀ command urb remaining awaiting,
      t.conn.phase = .serving command urb remaining awaiting →
        t.conn.bulkInSeqnums command.header.seqnum = none ∧
          t.conn.bulkOutSeqnums command.header.seqnum = none ∧
          ∀ ep w urb', t.conn.ins ep = some w → w.Tidy →
            ¬ Open (w.word command.header.seqnum) urb' := by
  intro command urb remaining awaiting hp
  have he := step_effect hstep
  rcases he.serving hp with ⟨rfl, hselect, rfl, -⟩ | ⟨remaining', awaiting', hp', -⟩
  · -- Its number has no bearer, so there is nothing under it.
    obtain ⟨hd, hins, hin, hout⟩ := he.dispatched rfl hp
    rw [hins, hin, hout]
    exact h.unborne (hf hd)
  · obtain ⟨hin, hout, hclosed⟩ := h.serving command urb remaining' awaiting' hp'
    refine ⟨?_, ?_, fun ep w urb' hw htidy hopen => ?_⟩
    · cases hrecorded : t.conn.bulkInSeqnums command.header.seqnum with
      | none => rfl
      | some ep =>
        rcases he.recordedIn hrecorded with hold | ⟨command', w, -, -, -, -, hselect, -⟩
        · cases hin.symm.trans hold
        · cases hselect.symm.trans hp
    · cases hrecorded : t.conn.bulkOutSeqnums command.header.seqnum with
      | none => rfl
      | some ep =>
        rcases he.recordedOut hrecorded with hold | ⟨command', w, -, -, -, -, hselect, -⟩
        · cases hout.symm.trans hold
        · cases hselect.symm.trans hp
    · cases h.change hs he hw with
      | started w ha hw' hword =>
        rw [hword] at hopen
        exact not_open_nil hopen
      | halted v w hv hhalted howed => exact htidy.running hhalted.phase
      | told v command' hv hv' hc =>
        cases hc with
        | submit command' hselect hdir => cases hselect.symm.trans hp'
        | unlink header unlinkSeqnum endpoint hselect hrecorded => cases hselect.symm.trans hp'
      | went v w hv hv' hw' hword => exact hclosed ep v urb' hv hv' ((hword _).open_before hopen)

/-- What has been answered stands in no word. -/
theorem Kept.sent_step (h : Kept s) (hs : Settles s a) (hstep : step prof s a = some t) :
    ∀ ep w, t.conn.ins ep = some w → w.Tidy → ∀ event ∈ t.conn.inEvents,
      some event.urb ∉ w.word event.seqnum := by
  intro ep w hw htidy event hevent hm
  have he := step_effect hstep
  rcases he.inEvent hevent with hold | ⟨endpoint, move, v, v', events, ha, hv, hst, hb, ht, hnew⟩
  · cases h.change hs he hw with
    | started w ha hw' hword =>
      rw [hword] at hm
      cases hm
    | halted v w hv hhalted howed => exact htidy.running hhalted.phase
    | told v command hv hv' hc =>
      rw [InWorker.word_push] at hm
      rcases List.mem_append.mp hm with hm | hm
      · exact h.sent ep v hv hv' event hold hm
      · cases hc with
        | submit command hp hdir =>
          dsimp only [BulkInCommand.mark] at hm
          split at hm
          · have hindex := (h.routed.inEvents event hold).2.1
            rw [Option.some.inj (List.mem_singleton.mp hm)] at hindex
            exact Nat.lt_irrefl _ hindex
          · cases hm
        | unlink header unlinkSeqnum endpoint hp hrecorded =>
          dsimp only [BulkInCommand.mark] at hm
          split at hm <;> simp at hm
    | went v w hv hv' hw' hword =>
      exact h.sent ep v hv hv' event hold ((hword _).suffix.subset hm)
  · obtain ⟨hv', hleaves⟩ := h.moved hs ha hv hst hb
    rcases hleaves with hleaves | hstops
    · by_cases hep : ep = endpoint
      · subst hep
        cases hw.symm.trans ht
        exact hleaves.gone event hnew hm
      · -- The event is of another endpoint.
        obtain ⟨-, request, hr, hurb, -, -⟩ := (InWorker.step_moves hst).answers event hnew
        have hmine := ((h.routed.ins endpoint v hv).2.2 request hr).1
        obtain ⟨request', hr', hurb'⟩ := InWorker.mem_word hm
        have hmine' := (((h.routed.step he).ins ep w hw).2.2 request' hr').1
        rw [hurb', hurb] at hmine'
        exact hep (hmine'.symm.trans hmine)
    · rw [hstops.events] at hnew
      cases hnew

/-- An event stays queued as long as its number is on the books of the handler. -/
theorem awaited_step (he : Connection.Effect prof s.conn a t.conn) (h : s.conn.Awaited k)
    (hk : t.conn.bulkInSeqnums k ≠ none ∨ k ∈ t.conn.cancelledBulkInSeqnums) :
    t.conn.Awaited k := by
  rcases he.awaited h with h | ⟨hrecorded, hcancelled⟩
  · exact h
  · rcases hk with hk | hk
    · exact absurd hrecorded hk
    · exact absurd hk hcancelled

/-- A running worker that has been told something is a running worker. -/
theorem Kept.told_tidy (h : Kept s) (hf : Fresh s a) (hs : Settles s a)
    (hstep : step prof s a = some t) {command : BulkInCommand} (htidy : w.Tidy)
    (hw : t.conn.ins ep = some (w.push command)) : (w.push command).Tidy := by
  rcases h.workers_step hf hs hstep ep _ hw with hhalted | htold
  · exact absurd hhalted.phase htidy.running
  · exact htold

/-- What a worker owes it goes on owing, or an event is queued. -/
theorem Kept.owed_step (h : Kept s) (hf : Fresh s a) (hs : Settles s a)
    (hstep : step prof s a = some t) (himport : ∀ outcome, a ≠ .importDone outcome)
    (hk : k ∈ s.conn.cancelledBulkInSeqnums) {v : InWorker} (hv : s.conn.ins ep = some v)
    (htidy : v.Tidy) (howed : Owed (v.word k)) (hw : t.conn.ins ep = some w) :
    w.Tidy ∧ Owed (w.word k) ∨ t.conn.Awaited k ∨ s.conn.Awaited k := by
  cases h.change hs (step_effect hstep) hw with
  | started w ha hw' hword =>
    obtain ⟨outcome, ha⟩ := ha
    exact absurd ha (himport outcome)
  | halted v' w hv' hhalted howed' =>
    cases hv.symm.trans hv'
    exact Or.inr (Or.inr (howed' htidy k hk howed))
  | told v' command hv' htidy' hc =>
    cases hv.symm.trans hv'
    refine Or.inl ⟨h.told_tidy hf hs hstep htidy hw, ?_⟩
    rw [InWorker.word_push]
    exact howed.append _
  | went v' w hv' htidy' hw' hword =>
    cases hv.symm.trans hv'
    rcases (hword k).owed howed with howed | ⟨-, hawaited⟩ | hgiven
    · exact Or.inl ⟨hw', howed⟩
    · exact Or.inr (Or.inl hawaited)
    · exact Or.inr (Or.inr (hgiven hk))

/-- What a worker is to answer it goes on to, unless it ends or an event is queued. -/
theorem Kept.open_step (h : Kept s) (hf : Fresh s a) (hs : Settles s a)
    (hstep : step prof s a = some t) (himport : ∀ outcome, a ≠ .importDone outcome)
    (hk : t.conn.bulkInSeqnums k ≠ none) {v : InWorker} (hv : s.conn.ins ep = some v)
    (hopen : v.Halted ∨ v.Tidy ∧ ∃ urb, Open (v.word k) urb) (hw : t.conn.ins ep = some w) :
    (w.Halted ∨ w.Tidy ∧ ∃ urb, Open (w.word k) urb) ∨ t.conn.Awaited k := by
  -- A worker that runs has an open word.
  have hopen' : v.Tidy → ∃ urb, Open (v.word k) urb := by
    intro htidy
    rcases hopen with hhalted | ⟨-, hopen⟩
    · exact absurd hhalted.phase htidy.running
    · exact hopen
  cases h.change hs (step_effect hstep) hw with
  | started w ha hw' hword =>
    obtain ⟨outcome, ha⟩ := ha
    exact absurd ha (himport outcome)
  | halted v' w hv' hhalted howed => exact Or.inl (Or.inl hhalted)
  | told v' command hv' htidy hc =>
    cases hv.symm.trans hv'
    obtain ⟨urb, hopen⟩ := hopen' htidy
    refine Or.inl (Or.inr ⟨h.told_tidy hf hs hstep htidy hw, ?_⟩)
    rw [InWorker.word_push]
    cases hc with
    | submit command hp hdir =>
      dsimp only [BulkInCommand.mark]
      split
      · exact ⟨_, open_snoc _ _⟩
      · rw [List.append_nil]
        exact ⟨urb, hopen⟩
    | unlink header unlinkSeqnum endpoint hp hs' =>
      -- The number that is unlinked has been taken out of the records, and this one has not.
      have hne : unlinkSeqnum ≠ k := by
        rintro rfl
        exact hk (Connection.step_unlinkIn (step_eq_some hstep).1 hs').1
      rw [BulkInCommand.mark, if_neg hne, List.append_nil]
      exact ⟨urb, hopen⟩
  | went v' w hv' htidy hw' hword =>
    cases hv.symm.trans hv'
    obtain ⟨urb, hopen⟩ := hopen' htidy
    rcases (hword k).open_after hopen with hopen | hawaited
    · exact Or.inl (Or.inr ⟨hw', urb, hopen⟩)
    · exact Or.inr hawaited

theorem Kept.cancelled_step (h : Kept s) (hf : Fresh s a) (hs : Settles s a)
    (hstep : step prof s a = some t) (hin : t.conn.InSession) :
    ∀ k ∈ t.conn.cancelledBulkInSeqnums, t.conn.Awaited k ∨
      ∃ ep w, t.conn.ins ep = some w ∧ w.Tidy ∧ Owed (w.word k) := by
  intro k hk
  have he := step_effect hstep
  have hkept : s.conn.Awaited k → t.conn.Awaited k := fun h => awaited_step he h (Or.inr hk)
  have himport : ∀ outcome, a ≠ .importDone outcome := by
    rintro outcome rfl
    rw [(he.importDone_eq rfl).1] at hk
    cases outcome <;> simp [Connection.importDone, Connection.write] at hk
  rcases he.cancelled hk with hold | ⟨header, ep, rfl, hp, hrecorded, hevents, -⟩
  · rcases h.cancelled (he.inSession hin himport) k hold with hawaited | ⟨ep, v, hv, htidy, howed⟩
    · exact Or.inl (hkept hawaited)
    · obtain ⟨w, hw⟩ := he.in_stays hv hin himport
      rcases h.owed_step hf hs hstep himport hold hv htidy howed hw with howed | hawaited | hawaited
      · exact Or.inr ⟨ep, w, hw, howed⟩
      · exact Or.inl hawaited
      · exact Or.inl (hkept hawaited)
  · -- The unlink that cancels it: the worker has answered, or will come to the `Unlink`.
    rcases h.known (Connection.inSession_select hp) k ep hrecorded with
      hawaited | ⟨v, hv, hhalted | ⟨htidy, urb, hopen⟩⟩
    · exact Or.inl (hkept hawaited)
    · refine Or.inl (hkept (hs ep hrecorded fun w hw => ?_))
      cases hv.symm.trans hw
      exact hhalted.phase
    · have htold := (Connection.step_unlinkIn (step_eq_some hstep).1 hrecorded).2 v hv htidy.running
      refine Or.inr ⟨ep, _, htold, htidy.push_unlink k, ?_⟩
      rw [InWorker.word_push, BulkInCommand.mark, if_pos rfl]
      exact hopen.owed

theorem Kept.known_step (h : Kept s) (hf : Fresh s a) (hs : Settles s a)
    (hstep : step prof s a = some t) (hin : t.conn.InSession) :
    ∀ k ep, t.conn.bulkInSeqnums k = some ep → t.conn.Awaited k ∨
      ∃ w, t.conn.ins ep = some w ∧ (w.Halted ∨ w.Tidy ∧ ∃ urb, Open (w.word k) urb) := by
  intro k ep hrecorded
  have he := step_effect hstep
  have hsome : t.conn.bulkInSeqnums k ≠ none := by
    rw [hrecorded]
    exact fun h => nomatch h
  have himport : ∀ outcome, a ≠ .importDone outcome := by
    rintro outcome rfl
    rw [(he.importDone_eq rfl).1] at hrecorded
    cases outcome <;> cases hrecorded
  rcases he.recordedIn hrecorded with hold | ⟨command, v, rfl, rfl, rfl, hd, -, hv, htold⟩
  · rcases h.known (he.inSession hin himport) k ep hold with hawaited | ⟨v, hv, hworker⟩
    · exact Or.inl (awaited_step he hawaited (Or.inl hsome))
    · obtain ⟨w, hw⟩ := he.in_stays hv hin himport
      rcases h.open_step hf hs hstep himport hsome hv hworker hw with hworker | hawaited
      · exact Or.inr ⟨w, hw, hworker⟩
      · exact Or.inl hawaited
  · refine Or.inr ⟨_, htold, ?_⟩
    rcases h.workers_step hf hs hstep _ _ htold with hhalted | htidy
    · exact Or.inl hhalted
    · refine Or.inr ⟨htidy, s.conn.urbOf command, ?_⟩
      rw [InWorker.word_push, BulkInCommand.mark, if_pos rfl]
      exact open_snoc _ _

theorem Kept.anew_step (h : Kept s) (hf : Fresh s a) (hstep : step prof s a = some t) :
    ∀ k, t.anew k → t.bearer k ≠ none → k ∉ t.conn.cancelledBulkInSeqnums := by
  intro k hanew hb hk
  have he := step_effect hstep
  rcases he.cancelled hk with hold | ⟨header, ep, -, -, -, -, hwire⟩
  · have hsubmitted : ∀ command, a = .submit command → command.header.seqnum = k →
        s.conn.device = none := by
      rintro command rfl rfl
      by_contra hd
      have hquiet := anew_submitted hstep hd hanew
      have hselect := he.submit_select rfl
      exact (h.clean (Connection.inSession_select hselect) (hf hd) hquiet).cancelled hold
    rcases anew_before hstep hanew with hwas | ⟨command, ha, hseq, hd⟩
    · obtain ⟨urb, hurb⟩ := Option.ne_none_iff_exists'.mp hb
      rcases bearer_before hstep hurb with hbefore | ⟨command, ha, hseq, hd, -⟩
      · exact h.anew k hwas (by simp [hbefore]) hold
      · exact hd (hsubmitted command ha hseq)
    · exact hd (hsubmitted command ha hseq)
  · exact hb (bearer_unlinked hstep hwire)

theorem Kept.step (h : Kept s) (hf : Fresh s a) (hs : Settles s a)
    (hstep : Bookkeeping.step prof s a = some t) : Kept t where
  routed := h.routed.step (step_effect hstep)
  pendingOut := h.pendingOut.step (step_effect hstep)
  workers := h.workers_step hf hs hstep
  sent := h.sent_step hs hstep
  recordedIn := h.recordedIn_step hf hstep
  recordedOut := h.recordedOut_step hf hstep
  exposed := h.exposed_step hf hs hstep
  serving := h.serving_step hf hs hstep
  cancelled := h.cancelled_step hf hs hstep
  known := h.known_step hf hs hstep
  anew := h.anew_step hf hstep

/-- **URBs that have been answered leave nothing on the books** in a run in which no worker gives up
    a cancelled URB that no event will answer. -/
theorem answered_leave_nothing (prof : Profile) {acts : List Action}
    (hf : Along (Bookkeeping.step prof) Fresh {} acts)
    (hs : Along (Bookkeeping.step prof) Settles {} acts) :
    Throughout (Bookkeeping.step prof) LeavesNothing {} acts :=
  throughout_of_along (fun _ _ _ h hd hst => h.step hd.1 hd.2 hst) (fun _ h => h.leavesNothing)
    kept_init (hf.and hs)

/-- A read completes before it is unlinked, and its number is used again. -/
def unlinkCompleted : List Action :=
  Connection.attach ++ [Connection.submitRead 1] ++ Connection.startRead ++
    [.inCompletion 0x81 (.ok [0x2A]), Connection.unlinkUrb 2 1, .inCommand 0x81, .deliverIn,
      Connection.submitRead 1] ++ Connection.startRead

theorem answered_leave_nothing_completed :
    Throughout (Bookkeeping.step .release) LeavesNothing {} unlinkCompleted :=
  answered_leave_nothing .release (by decide +kernel) (by decide +kernel)

/-- A read is unlinked while it is pending, and the worker comes to the `Unlink`. -/
def unlinkPending : List Action :=
  Connection.attach ++ [Connection.submitRead 1, .inCommand 0x81, Connection.unlinkUrb 2 1,
    .inCommand 0x81]

/-- **The number stays among the cancelled ones.** -/
theorem answered_sometimes_leave : ¬ ∀ (prof : Profile) (acts : List Action),
    Along (Bookkeeping.step prof) Fresh {} acts →
      Throughout (Bookkeeping.step prof) LeavesNothing {} acts := by
  intro h
  obtain ⟨s, hr, hp, hb, hq, hk⟩ : ∃ s, run (Bookkeeping.step .release) {} unlinkPending = some s ∧
      s.conn.phase = .select ∧ s.bearer 1 = none ∧ s.conn.Quiet 1 ∧
      1 ∈ s.conn.cancelledBulkInSeqnums :=
    ⟨_, rfl, rfl, rfl, by decide +kernel, by decide +kernel⟩
  have hleaves := (h .release unlinkPending (by decide +kernel)).of_run hr
  exact (hleaves.clean (Connection.inSession_select hp) 1 hb hq).cancelled hk

end Bookkeeping
end Lusbip
