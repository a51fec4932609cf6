import Lusbip.Session.BulkInWords
import Lusbip.Session.CancelledWrites
import Lusbip.Session.Fallback

/-!
# The bearers of sequence numbers

A client may use a sequence number again once the URB that bore it has been answered. So a number
stands for one URB at a time: the one that was submitted under it last, until a `RET_SUBMIT` for it
or a `RET_UNLINK` with status 0 is written. `Bookkeeping` watches a connection and keeps the bearer
of every number.

What the books say of a number they say of its bearer. The lemmas here tell how a record can come
and how a bearer can go, each for all steps at once.
-/

namespace Lusbip

open Lib.Transition

def BulkInCommand.seqnum : BulkInCommand → UInt32
  | .submit request => request.header.seqnum
  | .unlink seqnum => seqnum

def BulkOutCommand.seqnum? : BulkOutCommand → Option UInt32
  | .submit request => some request.header.seqnum
  | .unlink seqnum => some seqnum
  | _ => none

/-- The reply answers the URB that was submitted under the sequence number. -/
def Reply.answers (seqnum : UInt32) (urb : Urb) : Reply → Bool
  | .submit _ urb' _ response => urb' = urb ∧ response.submitSeqnum? = some seqnum
  | .unlink _ unlinkSeqnum response => unlinkSeqnum = seqnum ∧ response.unlinkStatus? = some 0
  | .imported _ _ => false

/-- No command that is queued mentions the sequence number, and no event. -/
structure Connection.Quiet (c : Connection) (seqnum : UInt32) : Prop where
  inCommands : ∀ ep, ∀ w ∈ c.ins ep, ∀ command ∈ w.queue, command.seqnum ≠ seqnum
  outCommands : ∀ ep, ∀ w ∈ c.outs ep, ∀ command ∈ w.queue, command.seqnum? ≠ some seqnum
  inEvents : ∀ event ∈ c.inEvents, event.seqnum ≠ seqnum
  outEvents : ∀ event ∈ c.outEvents, event.seqnum ≠ seqnum

structure Bookkeeping where
  conn : Connection := {}
  /-- The URB that bears a sequence number and has not been answered. -/
  bearer : UInt32 → Option Urb := fun _ => none
  /-- Nothing mentioned the sequence number when a URB was last submitted under it. -/
  anew : UInt32 → Prop := fun _ => False

namespace Bookkeeping

/-- The bearers, before the replies of a step count. -/
def borne (s : Bookkeeping) : Action → UInt32 → Option Urb
  | .submit command =>
      match s.conn.device with
      | none => s.bearer
      | some _ => Function.update s.bearer command.header.seqnum (some (s.conn.urbOf command))
  | .importDone _ => fun _ => none
  | _ => s.bearer

def anewAfter (s : Bookkeeping) : Action → UInt32 → Prop
  | .submit command =>
      match s.conn.device with
      | none => s.anew
      | some _ =>
          Function.update s.anew command.header.seqnum (s.conn.Quiet command.header.seqnum)
  | _ => s.anew

def step (prof : Profile) (s : Bookkeeping) (a : Action) : Option Bookkeeping :=
  (s.conn.step prof a).map fun c =>
    { conn := c
      bearer := fun seqnum => (s.borne a seqnum).filter fun urb =>
        !(c.wire.drop s.conn.wire.length).any (Reply.answers seqnum urb)
      anew := s.anewAfter a }

/-- A sequence number is used again only after the URB that bore it was answered. -/
def Fresh (s : Bookkeeping) : Action → Prop
  | .submit command => s.conn.device ≠ none → s.bearer command.header.seqnum = none
  | _ => True

end Bookkeeping

namespace Connection

variable {prof : Profile} {c t : Connection} {a : Action} {k : UInt32} {ep : UInt8} {urb : Urb}

/-! ## Endpoints and their URBs -/

theorem bulkEndpoints_out {device : UsbDevice} (h : ep ∈ bulkEndpoints device .out) :
    ep &&& 0x80 ≠ 0x80 := by
  obtain ⟨interface, -, h⟩ := List.mem_flatMap.mp h
  obtain ⟨endpoint, hm, rfl⟩ := List.mem_map.mp h
  have hdir := (of_decide_eq_true (List.mem_filter.mp hm).2).2
  unfold UsbEndpoint.direction at hdir
  split at hdir
  · cases hdir
  · assumption

/-- Every URB is at a worker of its own endpoint. -/
structure Routed (c : Connection) : Prop where
  device : ∀ ep w, c.ins ep = some w → c.device ≠ none
  ins : ∀ ep w, c.ins ep = some w → ep &&& 0x80 = 0x80 ∧ w.Keyed ∧
    ∀ request, w.Holds request → request.urb.ep = ep ∧ request.urb.index < c.clock
  outs : ∀ ep w, c.outs ep = some w → ep &&& 0x80 ≠ 0x80 ∧ w.Lined ep c.clock
  inEvents : ∀ event ∈ c.inEvents, event.urb.ep &&& 0x80 = 0x80 ∧ event.urb.index < c.clock ∧
    event.response.submitSeqnum? = some event.seqnum
  outEvents : ∀ event ∈ c.outEvents, event.urb.ep &&& 0x80 ≠ 0x80 ∧
    event.response.submitSeqnum? = some event.seqnum

theorem routed_init : Routed {} :=
  ⟨fun _ _ h => (nomatch h), fun _ _ h => (nomatch h), fun _ _ h => (nomatch h),
    fun _ h => (nomatch h), fun _ h => (nomatch h)⟩

/-- A device stays imported as long as its workers do. -/
theorem Effect.device (he : Effect prof c a t)
    (h : ∀ ep w, c.ins ep = some w → c.device ≠ none) :
    ∀ ep w, t.ins ep = some w → t.device ≠ none := by
  intro ep w hw
  cases he with
  | importRequest hp => cases hw
  | importDone outcome hp =>
    cases outcome with
    | succeeded device opens => exact fun h => nomatch h
    | rejected => cases hw
    | refused => cases hw
  | submitIn command v hp hv hd hdir => exact hd
  | unlinkIn header seqnum endpoint ins hp hs htold =>
    rcases htold with rfl | ⟨v, hv, rfl⟩
    · exact h ep w hw
    · exact h endpoint v hv
  | deliverIn event rest hp he =>
    rw [(deliverIn_frame c event rest).2.1] at hw
    rw [(deliverIn_outs c event rest).2.2.1]
    exact h ep w hw
  | deliverOut event rest hp he =>
    rw [(deliverOut_ins c event rest).1] at hw
    rw [(deliverOut_ins c event rest).2.2.1]
    exact h ep w hw
  | execute host command urb device hp hd =>
    rw [(execute_frame prof c command urb device host).2.2.2.2, hd]
    exact fun h => nomatch h
  | inFlush endpoint v out o seqnum len hv ho hout hvp => exact h endpoint v hv
  | inMove endpoint move v w' events hv hs hf hb => exact h endpoint v hv
  | _ => exact h ep w hw

theorem Routed.step (h : Routed c) (he : Effect prof c a t) : Routed t := by
  have hclock := he.mono.1
  refine ⟨he.device h.device, fun ep w hw => ?_, fun ep w hw => ?_, fun event hm => ?_,
    fun event hm => ?_⟩
  · cases he.in hw with
    | started device opens ha hp w hw =>
      obtain ⟨hmem, rfl⟩ := startBulkInWorkers_eq_some.mp hw
      refine ⟨bulkEndpoints_in hmem, fun _ _ h => (nomatch h), fun request hr => ?_⟩
      rcases hr with hr | ⟨seqnum, hr⟩
      · cases hr
      · cases hr
    | kept w hw =>
      obtain ⟨hbit, hkeyed, hmine⟩ := h.ins ep w hw
      exact ⟨hbit, hkeyed, fun r hr => ⟨(hmine r hr).1, (hmine r hr).2.trans_le hclock⟩⟩
    | told w command hw' hc =>
      obtain ⟨hbit, hkeyed, hmine⟩ := h.ins ep w hw'
      refine ⟨hbit, hkeyed, fun request hr => ?_⟩
      rcases hr with hr | hr
      · rcases List.mem_append.mp hr with hr | hr
        · exact ⟨(hmine request (Or.inl hr)).1, (hmine request (Or.inl hr)).2.trans_le hclock⟩
        · cases hc with
          | submit command' hp hdir =>
            cases List.mem_singleton.mp hr
            refine ⟨rfl, ?_⟩
            rw [he.submit_clock rfl]
            exact Nat.lt_succ_self _
          | unlink header seqnum endpoint hp hs => cases List.mem_singleton.mp hr
      · exact ⟨(hmine request (Or.inr hr)).1, (hmine request (Or.inr hr)).2.trans_le hclock⟩
    | flushing w seqnum len hw' ha hp =>
      obtain ⟨hbit, hkeyed, hmine⟩ := h.ins ep w hw'
      exact ⟨hbit, hkeyed, fun r hr => ⟨(hmine r hr).1, (hmine r hr).2.trans_le hclock⟩⟩
    | moved w w' move events hw' ha hs hb =>
      obtain ⟨hbit, hkeyed, hmine⟩ := h.ins ep w hw'
      have hmoves := InWorker.step_moves hs
      refine ⟨hbit, hmoves.keyed hkeyed, fun r hr => ?_⟩
      have hheld := hmine r (hmoves.holds r hr)
      exact ⟨hheld.1, hheld.2.trans_le hclock⟩
  · cases he.out hw with
    | started outcome ha hp =>
      refine ⟨?_, OutWorker.lined_start ep _ ep⟩
      have hw' := hw
      rw [(he.importDone_eq ha).1] at hw'
      cases outcome with
      | succeeded device opens =>
        have hm := (startedOut_eq_some.mp hw').1
        exact bulkEndpoints_out (List.mem_filter.mp hm).1
      | rejected => cases hw'
      | refused => cases hw'
    | kept w hw => exact ⟨(h.outs ep w hw).1, (h.outs ep w hw).2.mono hclock⟩
    | told w command hw' hc =>
      refine ⟨(h.outs ep w hw').1, (h.outs ep w hw').2.push hclock fun urb hurb => ?_⟩
      cases hc with
      | submit command' hp hdir =>
        cases List.mem_singleton.mp hurb
        refine ⟨rfl, rfl, ?_⟩
        rw [he.submit_clock rfl]
        exact Nat.lt_succ_self _
      | _ => cases hurb
    | moved w w' move events hw' ha hs =>
      exact ⟨(h.outs ep w hw').1, ((h.outs ep w hw').2.turn (OutWorker.step_turn hs)).mono hclock⟩
  · rcases he.inEvent hm with hm | ⟨endpoint, move, w, w', events, ha, hw, hs, -, -, hm⟩
    · obtain ⟨hbit, hindex, hseq⟩ := h.inEvents event hm
      exact ⟨hbit, hindex.trans_le hclock, hseq⟩
    · obtain ⟨hbit, hkeyed, hmine⟩ := h.ins endpoint w hw
      obtain ⟨-, request, hr, hurb, hresponse, hseq⟩ := (InWorker.step_moves hs).answers event hm
      obtain ⟨hep, hindex⟩ := hmine request hr
      rw [hurb, hep]
      exact ⟨hbit, hindex.trans_le hclock, hresponse.trans (congrArg some (hseq hkeyed))⟩
  · rcases he.outEvent hm with hm | ⟨endpoint, move, w, w', events, ha, hw, hs, hm⟩
    · exact h.outEvents event hm
    · obtain ⟨hbit, hlined⟩ := h.outs endpoint w hw
      obtain ⟨⟨request, hr, hurb, -⟩, hseq⟩ := (OutWorker.step_turn hs).moves.answers event hm
      have hep := (hlined.mine request.urb
        (List.mem_flatMap.mpr ⟨_, hr, List.mem_singleton_self _⟩)).1
      rw [hurb, hep]
      exact ⟨hbit, hseq⟩

/-! ## The end of a URB -/

/-- How the URB under a sequence number is answered, and what becomes of its record. -/
inductive Ends (c t : Connection) (k : UInt32) (urb : Urb) : Action → Prop where
  | deliveredIn (event : BulkInEvent) (he : event ∈ c.inEvents) (hk : event.seqnum = k)
      (hu : event.urb = urb) (ht : t.bulkInSeqnums k = none) : Ends c t k urb .deliverIn
  | deliveredOut (event : BulkOutEvent) (he : event ∈ c.outEvents) (hk : event.seqnum = k)
      (hu : event.urb = urb) (ht : t.bulkOutSeqnums k = none) : Ends c t k urb .deliverOut
  | handled (a : Action) (command : SubmitCommand) (remaining : List UInt8)
      (awaiting : Option (UInt8 × Oneshot)) (hp : c.phase = .serving command urb remaining awaiting)
      (hk : command.header.seqnum = k) : Ends c t k urb a
  | unlinkedIn (header : UsbIpHeaderBasic) (endpoint : UInt8)
      (hs : c.bulkInSeqnums k = some endpoint) (ht : t.bulkInSeqnums k = none) :
      Ends c t k urb (.unlink header k)
  | unlinkedOut (header : UsbIpHeaderBasic) (endpoint : UInt8)
      (hs : c.bulkOutSeqnums k = some endpoint) (ht : t.bulkOutSeqnums k = none) :
      Ends c t k urb (.unlink header k)
  | imported (outcome : ImportOutcome) : Ends c t k urb (.importDone outcome)

theorem answers_submit {n : Nat} {urb' : Urb} {source : Source} {response : UsbIpResponse}
    (h : Reply.answers k urb (.submit n urb' source response) = true) :
    urb' = urb ∧ response.submitSeqnum? = some k := of_decide_eq_true h

theorem answers_unlink {n : Nat} {seqnum : UInt32} {header : UsbIpHeaderBasic} {wasPending : Bool}
    (h : Reply.answers k urb (.unlink n seqnum (handleUsbipCmdUnlink header wasPending)) = true) :
    seqnum = k ∧ wasPending = true := by
  obtain ⟨hk, hstatus⟩ : seqnum = k ∧ _ := of_decide_eq_true h
  exact ⟨hk, (handleUsbipCmdUnlink_status header wasPending).mp hstatus⟩

/-- **The replies of a step, and the URBs that they answer.** -/
theorem Effect.news (he : Effect prof c a t) (hr : Routed c) :
    ∃ news, t.wire = c.wire ++ news ∧
      ∀ reply ∈ news, ∀ k urb, reply.answers k urb = true → Ends c t k urb a := by
  have hnone : ∀ reply ∈ ([] : List Reply), ∀ k urb, reply.answers k urb = true →
      Ends c t k urb a := fun _ h => nomatch h
  cases he with
  | unlinkIn header seqnum endpoint ins hp hs htold =>
    refine ⟨_, rfl, fun reply hm k urb h => ?_⟩
    cases List.mem_singleton.mp hm
    obtain ⟨rfl, -⟩ := answers_unlink h
    exact .unlinkedIn header endpoint hs (Function.update_self ..)
  | unlinkOut header seqnum endpoint outs hp hs htold =>
    refine ⟨_, rfl, fun reply hm k urb h => ?_⟩
    cases List.mem_singleton.mp hm
    obtain ⟨rfl, -⟩ := answers_unlink h
    exact .unlinkedOut header endpoint hs (Function.update_self ..)
  | unlinkUnknown header seqnum hp =>
    refine ⟨_, rfl, fun reply hm k urb h => ?_⟩
    cases List.mem_singleton.mp hm
    obtain ⟨-, hpending⟩ := answers_unlink h
    cases hpending
  | importDone outcome hp =>
    cases outcome with
    | rejected => exact ⟨[], (List.append_nil _).symm, hnone⟩
    | refused => exact ⟨_, rfl, fun reply hm k urb h => .imported _⟩
    | succeeded device opens => exact ⟨_, rfl, fun reply hm k urb h => .imported _⟩
  | deliverIn event rest hp he =>
    have hm : event ∈ c.inEvents := by
      rw [he]
      exact List.mem_cons_self
    refine ⟨_, deliverIn_wire c event rest, fun reply hreply k urb h => ?_⟩
    split at hreply
    · cases List.mem_singleton.mp hreply
      obtain ⟨hu, hk⟩ := answers_submit h
      have hseq : event.seqnum = k :=
        Option.some.inj ((hr.inEvents event hm).2.2.symm.trans hk)
      refine .deliveredIn event hm hseq hu ?_
      rw [deliverIn_eq, ← hseq]
      exact Function.update_self ..
    · cases hreply
  | deliverOut event rest hp he =>
    have hm : event ∈ c.outEvents := by
      rw [he]
      exact List.mem_cons_self
    rw [deliverOut_eq]
    split
    · refine ⟨_, rfl, fun reply hreply k urb h => ?_⟩
      split at hreply
      · cases List.mem_singleton.mp hreply
        obtain ⟨hu, hk⟩ := answers_submit h
        have hseq : event.seqnum = k := Option.some.inj ((hr.outEvents event hm).2.symm.trans hk)
        refine .deliveredOut event hm hseq hu ?_
        rw [← hseq]
        exact Function.update_self ..
      · cases hreply
    · exact ⟨[], (List.append_nil _).symm, fun _ h => (nomatch h)⟩
  | controlFailed a command urb remaining awaiting endpoint err hp ha =>
    refine ⟨_, rfl, fun reply hreply k urb' h => ?_⟩
    cases List.mem_singleton.mp hreply
    obtain ⟨rfl, hk⟩ := answers_submit h
    exact .handled a command remaining awaiting hp (Option.some.inj hk)
  | execute host command urb device hp hd =>
    unfold Connection.execute
    dsimp only
    split
    · rename_i response hresponse
      refine ⟨_, rfl, fun reply hreply k urb' h => ?_⟩
      cases List.mem_singleton.mp hreply
      obtain ⟨rfl, hk⟩ := answers_submit h
      have hseq := handleUsbipCmdSubmit_seqnum hresponse
      exact .handled _ command [] none hp (Option.some.inj (hseq.symm.trans hk))
    · exact ⟨[], (List.append_nil _).symm, fun _ h => (nomatch h)⟩
    · exact ⟨[], (List.append_nil _).symm, fun _ h => (nomatch h)⟩
  | _ => exact ⟨[], (List.append_nil _).symm, hnone⟩

/-! ## The records -/

theorem of_update_none {β : Type} {f : UInt32 → Option β} {seqnum : UInt32} {b : β}
    (h : Function.update f seqnum none k = some b) : f k = some b := by
  by_cases hk : k = seqnum
  · subst hk
    rw [Function.update_self] at h
    cases h
  · rwa [Function.update_of_ne hk] at h

/-- A bulk-IN URB is recorded when a worker takes it. -/
theorem Effect.recordedIn (he : Effect prof c a t) (h : t.bulkInSeqnums k = some ep) :
    c.bulkInSeqnums k = some ep ∨ ∃ command w, a = .submit command ∧ command.header.seqnum = k ∧
      realEp command.header = ep ∧ c.device ≠ none ∧ t.phase = .select ∧ c.ins ep = some w ∧
      t.ins ep = some (w.push (.submit
        ⟨command.header, command.transferBufferLength, c.urbOf command⟩)) := by
  cases he with
  | submitIn command w hp hw hd hdir =>
    by_cases hk : k = command.header.seqnum
    · subst hk
      dsimp only at h
      rw [Function.update_self] at h
      cases h
      exact Or.inr ⟨command, w, rfl, rfl, rfl, hd, hp, hw, Function.update_self ..⟩
    · refine Or.inl ?_
      dsimp only at h
      rwa [Function.update_of_ne hk] at h
  | unlinkIn header seqnum endpoint ins hp hs htold =>
    exact Or.inl (of_update_none h)
  | importDone outcome hp => cases outcome <;> cases h
  | deliverIn event rest hp he =>
    rw [deliverIn_eq] at h
    exact Or.inl (of_update_none h)
  | deliverOut event rest hp he =>
    rw [(deliverOut_records c event rest).1] at h
    exact Or.inl h
  | execute host command urb device hp hd =>
    rw [(execute_records prof c command urb device host).1] at h
    exact Or.inl h
  | _ => exact Or.inl h

theorem Effect.recordedOut (he : Effect prof c a t) (h : t.bulkOutSeqnums k = some ep) :
    c.bulkOutSeqnums k = some ep ∨ ∃ command w, a = .submit command ∧ command.header.seqnum = k ∧
      realEp command.header = ep ∧ c.device ≠ none ∧ t.phase = .select ∧ c.outs ep = some w := by
  cases he with
  | submitOut command w hp hw hd hdir =>
    by_cases hk : k = command.header.seqnum
    · subst hk
      dsimp only at h
      rw [Function.update_self] at h
      cases h
      exact Or.inr ⟨command, w, rfl, rfl, rfl, hd, hp, hw⟩
    · refine Or.inl ?_
      dsimp only at h
      rwa [Function.update_of_ne hk] at h
  | unlinkOut header seqnum endpoint outs hp hs htold =>
    exact Or.inl (of_update_none h)
  | importDone outcome hp => cases outcome <;> cases h
  | deliverIn event rest hp he =>
    rw [deliverIn_eq] at h
    exact Or.inl h
  | deliverOut event rest hp he =>
    rw [deliverOut_eq] at h
    split at h
    · exact Or.inl (of_update_none h)
    · exact Or.inl h
  | execute host command urb device hp hd =>
    rw [(execute_records prof c command urb device host).2.2.1] at h
    exact Or.inl h
  | _ => exact Or.inl h

/-- What is pending at the OUT workers is recorded. -/
def PendingRecorded (c : Connection) : Prop := ∀ k ∈ c.pendingBulkOut, c.bulkOutSeqnums k ≠ none

theorem PendingRecorded.step (h : PendingRecorded c) (he : Effect prof c a t) :
    PendingRecorded t := by
  have herase : ∀ seqnum, ∀ k ∈ c.pendingBulkOut.erase seqnum,
      Function.update c.bulkOutSeqnums seqnum none k ≠ none := by
    intro seqnum k hk
    rw [Function.update_of_ne (Finset.ne_of_mem_erase hk)]
    exact h k (Finset.mem_of_mem_erase hk)
  cases he with
  | submitOut command w hp hw hd hdir =>
    intro k hk
    dsimp only
    by_cases hs : k = command.header.seqnum
    · rw [hs, Function.update_self]
      exact fun h => nomatch h
    · rw [Function.update_of_ne hs]
      exact h k ((Finset.mem_insert.mp hk).resolve_left hs)
  | unlinkOut header seqnum endpoint outs hp hs htold => exact herase seqnum
  | importDone outcome hp =>
    intro k hk
    cases outcome <;> simp [Connection.importDone, Connection.write] at hk
  | deliverIn event rest hp he =>
    rw [deliverIn_eq]
    exact h
  | deliverOut event rest hp he =>
    rw [deliverOut_eq]
    split
    · exact herase event.seqnum
    · exact h
  | execute host command urb device hp hd =>
    obtain ⟨-, hpending, hrecorded, -⟩ := execute_records prof c command urb device host
    intro k hk
    rw [hpending] at hk
    rw [hrecorded]
    exact h k hk
  | _ => exact h

/-- An event that answers a URB of the sequence number is queued. -/
def Awaited (c : Connection) (seqnum : UInt32) : Prop := ∃ event ∈ c.inEvents, event.seqnum = seqnum

/-- Where the event is taken off, the records of its sequence number go with it. -/
theorem Effect.awaited (he : Effect prof c a t) (h : c.Awaited k) :
    t.Awaited k ∨ t.bulkInSeqnums k = none ∧ k ∉ t.cancelledBulkInSeqnums := by
  obtain ⟨event, hm, hk⟩ := h
  cases he with
  | importDone outcome hp =>
    refine Or.inl ⟨event, ?_, hk⟩
    rw [(importDone_frame c outcome).1]
    exact hm
  | deliverIn event' rest hp he =>
    by_cases hk' : event'.seqnum = k
    · refine Or.inr ?_
      rw [deliverIn_eq, ← hk']
      exact ⟨Function.update_self .., Finset.notMem_erase _ _⟩
    · refine Or.inl ⟨event, ?_, hk⟩
      rw [(deliverIn_frame c event' rest).1]
      rw [he] at hm
      rcases List.mem_cons.mp hm with rfl | hm
      · exact absurd hk hk'
      · exact hm
  | deliverOut event' rest hp he =>
    refine Or.inl ⟨event, ?_, hk⟩
    rw [(deliverOut_ins c event' rest).2.1]
    exact hm
  | execute host command urb device hp hd =>
    refine Or.inl ⟨event, ?_, hk⟩
    rw [(execute_frame prof c command urb device host).2.2.1]
    exact hm
  | inMove endpoint move w w' events hw hs hf hb =>
    exact Or.inl ⟨event, List.mem_append_left _ hm, hk⟩
  | _ => exact Or.inl ⟨event, hm, hk⟩

/-- A URB is cancelled by an unlink that succeeds. -/
theorem Effect.cancelled (he : Effect prof c a t) (h : k ∈ t.cancelledBulkInSeqnums) :
    k ∈ c.cancelledBulkInSeqnums ∨ ∃ header ep, a = .unlink header k ∧ c.phase = .select ∧
      c.bulkInSeqnums k = some ep ∧ t.inEvents = c.inEvents ∧
      t.wire = c.wire ++ [.unlink c.session k (handleUsbipCmdUnlink header true)] := by
  cases he with
  | unlinkIn header seqnum endpoint ins hp hs htold =>
    rcases Finset.mem_insert.mp h with rfl | h
    · exact Or.inr ⟨header, endpoint, rfl, hp, hs, rfl, rfl⟩
    · exact Or.inl h
  | importDone outcome hp =>
    cases outcome <;> simp [Connection.importDone, Connection.write] at h
  | deliverIn event rest hp he =>
    rw [deliverIn_eq] at h
    exact Or.inl (Finset.mem_of_mem_erase h)
  | deliverOut event rest hp he =>
    rw [deliverOut_eq] at h
    split at h
    · exact Or.inl h
    · exact Or.inl h
  | execute host command urb device hp hd =>
    unfold Connection.execute at h
    dsimp only at h
    split at h
    · exact Or.inl h
    · exact Or.inl h
    · exact Or.inl h
  | _ => exact Or.inl h

/-! ## The IN workers -/

/-- Workers go when an import begins or ends, and stay otherwise. -/
theorem Effect.in_stays (he : Effect prof c a t) {w : InWorker} (hw : c.ins ep = some w)
    (ht : t.InSession) (hi : ∀ outcome, a ≠ .importDone outcome) : ∃ w', t.ins ep = some w' := by
  have hupdate : ∀ (endpoint : UInt8) (v : InWorker),
      ∃ w', Function.update c.ins endpoint (some v) ep = some w' := by
    intro endpoint v
    by_cases hep : ep = endpoint
    · subst hep
      exact ⟨v, Function.update_self ..⟩
    · exact ⟨w, by rw [Function.update_of_ne hep, hw]⟩
  cases he with
  | submitIn command v hp hv hd hdir => exact hupdate _ _
  | unlinkIn header seqnum endpoint ins hp hs htold =>
    rcases htold with rfl | ⟨v, hv, rfl⟩
    · exact ⟨w, hw⟩
    · exact hupdate _ _
  | importRequest hp => exact absurd rfl (ht c.outEndpoints)
  | importDone outcome hp => exact absurd rfl (hi outcome)
  | deliverIn event rest hp he =>
    rw [(deliverIn_frame c event rest).2.1]
    exact ⟨w, hw⟩
  | deliverOut event rest hp he =>
    rw [(deliverOut_ins c event rest).1]
    exact ⟨w, hw⟩
  | execute host command urb device hp hd =>
    rw [(execute_frame prof c command urb device host).1]
    exact ⟨w, hw⟩
  | inFlush endpoint v out o seqnum len hv ho hout hvp => exact hupdate _ _
  | inMove endpoint move v w' events hv hs hf hb => exact hupdate _ _
  | _ => exact ⟨w, hw⟩

/-- A session that has not just begun goes on. -/
theorem Effect.inSession (he : Effect prof c a t) (ht : t.InSession)
    (hi : ∀ outcome, a ≠ .importDone outcome) : c.InSession := by
  cases he with
  | importDone outcome hp => exact absurd rfl (hi outcome)
  | shutdownSent endpoint remaining outs hp htold => exact absurd rfl (ht _)
  | inFlush endpoint w out o seqnum len hw ho hout hwp => exact ht
  | inMove endpoint move w w' events hw hs hf hb => exact ht
  | outMove endpoint move w w' events hw hs => exact ht
  | controlFlush command urb remaining endpoint w hp hw => exact inSession_serving hp
  | controlFailed a command urb remaining awaiting endpoint err hp ha =>
    exact inSession_serving hp
  | controlPassed command urb remaining endpoint sender w hp hw hr =>
    exact inSession_serving hp
  | execute host command urb device hp hd => exact inSession_serving hp
  | _ => exact inSession_select ‹_›

/-- A running worker is told to unlink a URB that is recorded for it. -/
theorem step_unlinkIn {header : UsbIpHeaderBasic}
    (h : Connection.step prof c (.unlink header k) = some t) (hs : c.bulkInSeqnums k = some ep) :
    t.bulkInSeqnums k = none ∧ ∀ w, c.ins ep = some w → w.phase ≠ .stopped →
      t.ins ep = some (w.push (.unlink k)) := by
  cases hp : c.phase with
  | select =>
    simp only [Connection.step, hp, Connection.unlink, hs] at h
    obtain ⟨u, hu, rfl⟩ := Option.map_eq_some_iff.mp h
    refine ⟨?_, fun w hw hrunning => ?_⟩
    · obtain ⟨ins, -, rfl⟩ := toldIn_of_ignoring hu
      exact Function.update_self ..
    · unfold sendIn at hu
      dsimp only at hu
      rw [hw] at hu
      dsimp only [InWorker.send] at hu
      rw [if_neg hrunning] at hu
      split at hu
      · cases hu
        exact Function.update_self ..
      · cases hu
  | _ => simp [Connection.step, hp] at h

theorem Effect.submit_select {command : SubmitCommand} (he : Effect prof c a t)
    (ha : a = .submit command) : c.phase = .select := by
  cases he with
  | ignored command' hd hp => exact hp
  | submitIn command' w hp hw hd hdir => exact hp
  | submitOut command' w hp hw hd hdir => exact hp
  | serve command' remaining hp hr hd hn => exact hp
  | controlFailed a command' urb remaining awaiting endpoint err hp ha' =>
    rcases ha' with rfl | rfl <;> cases ha
  | inMove endpoint move w w' events hw hs hf hb => cases move <;> cases ha
  | _ => cases ha

/-- A URB that no worker takes leaves workers and records as they are. -/
theorem Effect.dispatched {command command' : SubmitCommand} {remaining : List UInt8}
    {awaiting : Option (UInt8 × Oneshot)} (he : Effect prof c a t) (ha : a = .submit command)
    (hp : t.phase = .serving command' urb remaining awaiting) :
    c.device ≠ none ∧ t.ins = c.ins ∧ t.bulkInSeqnums = c.bulkInSeqnums ∧
      t.bulkOutSeqnums = c.bulkOutSeqnums := by
  cases he with
  | ignored command hd hp' => cases hp'.symm.trans hp
  | submitIn command w hp' hw hd hdir => cases hp'.symm.trans hp
  | submitOut command w hp' hw hd hdir => cases hp'.symm.trans hp
  | serve command remaining hp' hr hd hn => exact ⟨hd, rfl, rfl, rfl⟩
  | controlFailed a command urb remaining awaiting endpoint err hp' ha' =>
    rcases ha' with rfl | rfl <;> cases ha
  | inMove endpoint move w w' events hw hs hf hb => cases move <;> cases ha
  | _ => cases ha

end Connection

namespace Bookkeeping

open Connection (Routed Ends Effect)

variable {prof : Profile} {s t : Bookkeeping} {a : Action} {k : UInt32} {urb : Urb}

theorem step_eq_some (h : step prof s a = some t) : s.conn.step prof a = some t.conn ∧
    t.anew = s.anewAfter a ∧ t.bearer = fun seqnum => (s.borne a seqnum).filter fun urb =>
      !(t.conn.wire.drop s.conn.wire.length).any (Reply.answers seqnum urb) := by
  obtain ⟨c, hc, rfl⟩ := Option.map_eq_some_iff.mp h
  exact ⟨hc, rfl, rfl⟩

theorem step_effect (h : step prof s a = some t) : Effect prof s.conn a t.conn :=
  Connection.step_effect (step_eq_some h).1

theorem borne_submit {command : SubmitCommand} (hd : s.conn.device ≠ none) :
    s.borne (.submit command) =
      Function.update s.bearer command.header.seqnum (some (s.conn.urbOf command)) := by
  unfold borne
  cases hdevice : s.conn.device with
  | none => exact absurd hdevice hd
  | some device => rfl

theorem borne_ignored {command : SubmitCommand} (hd : s.conn.device = none) :
    s.borne (.submit command) = s.bearer := by
  simp only [borne, hd]

theorem borne_before (h : step prof s a = some t) (hb : t.bearer k = some urb) :
    s.borne a k = some urb := by
  rw [(step_eq_some h).2.2] at hb
  exact Option.eq_some_of_filter_eq_some hb

/-- Whoever bears a number bore it before, or has just been submitted. -/
theorem bearer_before (h : step prof s a = some t) (hb : t.bearer k = some urb) :
    s.bearer k = some urb ∨ ∃ command, a = .submit command ∧ command.header.seqnum = k ∧
      s.conn.device ≠ none ∧ urb = s.conn.urbOf command := by
  have hborne := borne_before h hb
  cases a with
  | submit command =>
    by_cases hd : s.conn.device = none
    · rw [borne_ignored hd] at hborne
      exact Or.inl hborne
    · rw [borne_submit hd] at hborne
      by_cases hk : k = command.header.seqnum
      · subst hk
        rw [Function.update_self, Option.some.injEq] at hborne
        exact Or.inr ⟨command, rfl, rfl, hd, hborne.symm⟩
      · rw [Function.update_of_ne hk] at hborne
        exact Or.inl hborne
  | importDone outcome => cases hborne
  | _ => exact Or.inl hborne

theorem bearer_after (h : step prof s a = some t) (hr : Routed s.conn)
    (hb : s.borne a k = some urb) : t.bearer k = some urb ∨ Ends s.conn t.conn k urb a := by
  obtain ⟨news, hwire, hends⟩ := (step_effect h).news hr
  rw [(step_eq_some h).2.2, hwire, List.drop_left]
  dsimp only
  by_cases hany : news.any (Reply.answers k urb) = true
  · obtain ⟨reply, hm, hanswers⟩ := List.any_eq_true.mp hany
    exact Or.inr (hends reply hm k urb hanswers)
  · refine Or.inl ?_
    rw [hb, Option.filter_some_pos]
    simpa using hany

/-- **A number keeps its bearer until the URB is answered.** -/
theorem bearer_kept (h : step prof s a = some t) (hr : Routed s.conn) (hf : Fresh s a)
    (hb : s.bearer k = some urb) : t.bearer k = some urb ∨ Ends s.conn t.conn k urb a := by
  cases a with
  | submit command =>
    refine bearer_after h hr ?_
    by_cases hd : s.conn.device = none
    · rw [borne_ignored hd]
      exact hb
    · have hk : k ≠ command.header.seqnum := by
        rintro rfl
        cases (hf hd).symm.trans hb
      rw [borne_submit hd, Function.update_of_ne hk]
      exact hb
  | importDone outcome => exact Or.inr (.imported outcome)
  | _ => exact bearer_after h hr hb

theorem bearer_submitted {command : SubmitCommand} (h : step prof s (.submit command) = some t)
    (hr : Routed s.conn) (hd : s.conn.device ≠ none) :
    t.bearer command.header.seqnum = some (s.conn.urbOf command) := by
  have hborne : s.borne (.submit command) command.header.seqnum =
      some (s.conn.urbOf command) := by
    rw [borne_submit hd, Function.update_self]
  rcases bearer_after h hr hborne with hb | hends
  · exact hb
  · cases hends with
    | handled a command' remaining awaiting hp hk =>
      cases ((step_effect h).submit_select rfl).symm.trans hp

/-- An unlink that succeeds answers the URB. -/
theorem bearer_unlinked {n : Nat} {header : UsbIpHeaderBasic} (h : step prof s a = some t)
    (hw : t.conn.wire = s.conn.wire ++ [.unlink n k (handleUsbipCmdUnlink header true)]) :
    t.bearer k = none := by
  cases hb : t.bearer k with
  | none => rfl
  | some urb =>
    rw [(step_eq_some h).2.2, hw, List.drop_left] at hb
    have hkeep := (Option.filter_eq_some_iff.mp hb).2
    have hanswers : Reply.answers k urb (.unlink n k (handleUsbipCmdUnlink header true)) = true :=
      decide_eq_true ⟨rfl, (Connection.handleUsbipCmdUnlink_status header true).mpr rfl⟩
    simp [hanswers] at hkeep

/-- A URB that is submitted is noted by what is queued then. -/
theorem anew_submitted {command : SubmitCommand} (h : step prof s (.submit command) = some t)
    (hd : s.conn.device ≠ none) (hk : t.anew command.header.seqnum) :
    s.conn.Quiet command.header.seqnum := by
  rw [(step_eq_some h).2.1] at hk
  cases hdevice : s.conn.device with
  | none => exact absurd hdevice hd
  | some device =>
    simp only [anewAfter, hdevice, Function.update_self] at hk
    exact hk

theorem anew_before (h : step prof s a = some t) (hk : t.anew k) : s.anew k ∨
    ∃ command, a = .submit command ∧ command.header.seqnum = k ∧ s.conn.device ≠ none := by
  rw [(step_eq_some h).2.1] at hk
  cases a with
  | submit command =>
    cases hd : s.conn.device with
    | none =>
      simp only [anewAfter, hd] at hk
      exact Or.inl hk
    | some device =>
      simp only [anewAfter, hd] at hk
      by_cases hseq : k = command.header.seqnum
      · exact Or.inr ⟨command, rfl, hseq.symm, fun h => (nomatch h)⟩
      · rw [Function.update_of_ne hseq] at hk
        exact Or.inl hk
  | _ => exact Or.inl hk

end Bookkeeping
end Lusbip
