import Lusbip.Session.Ledger
import Lusbip.Session.Outcomes

/-!
# Writes before reads

A URB is answered when its bytes are in the buffer of the writer. So that a client still
sees its writes take effect before the reads that it sends after them, a bulk-IN worker has
the OUT endpoint of the same number flushed before it submits a read, and the handler has
all of them flushed before it executes a URB of endpoint 0.

The barrier works because a flush is sent later than every URB it is to be followed by: the
request at the head of the worker is older than the flush it waits for, and what is still in
the OUT queue behind that flush is younger. `Guarded` says so for the three places a flush
can be waited for, on top of `OutWorker.Ledger`.

The check that the read still is for the URB the barrier was for compares sequence numbers.
A URB that was unlinked and submitted again under its number while the barrier was running
passes for the old one, and its read goes ahead without the writes in between.
-/

namespace Lusbip

open Lib.Transition

/-! ## The barrier of a bulk-IN worker -/

/-- The sequence number a barrier is for. -/
def InPhase.barrierSeqnum? : InPhase → Option UInt32
  | .barrier seqnum _ _ => some seqnum
  | _ => none

/-- The flush that is waited for. -/
def InPhase.flush? : InPhase → Option Oneshot
  | .barrier _ _ flush => flush
  | _ => none

namespace InWorker

variable {w w' : InWorker} {seqnum : UInt32} {request : BulkInRequest}

/-- At the head of its loop the worker waits for no flush yet, and a barrier is for an entry
    of `pending`. -/
def Settled (w : InWorker) : Prop :=
  w.phase.flush? = none ∧
    ∀ seqnum, w.phase.barrierSeqnum? = some seqnum → seqnum ∈ w.pending.seqnums

theorem settle_settled (w : InWorker) : w.settle.Settled := by
  unfold settle
  split
  · exact ⟨rfl, fun _ h => nomatch h⟩
  · dsimp only
    split
    · exact ⟨rfl, fun _ h => nomatch h⟩
    · refine ⟨rfl, fun s hs => ?_⟩
      cases hs
      exact List.mem_cons_self

@[simp] theorem settle_reads (w : InWorker) : w.settle.reads = w.reads := by
  unfold settle
  split
  · rfl
  · dsimp only
    split <;> rfl

@[simp] theorem accept_reads (w : InWorker) (command : BulkInCommand) :
    (w.accept command).reads = w.reads := by
  cases command <;> rfl

theorem acceptAll_reads (queue : List BulkInCommand) (w : InWorker) :
    (queue.foldl accept w).reads = w.reads := by
  induction queue generalizing w with
  | nil => rfl
  | cons command queue ih => simp [ih]

@[simp] theorem drain_reads (w : InWorker) : w.drain.reads = w.reads := acceptAll_reads w.queue w

/-- Draining the queue brings no other request under a sequence number that is not submitted
    in it. -/
theorem acceptAll_requests (queue : List BulkInCommand) (w : InWorker)
    (hs : seqnum ∉ queue.filterMap BulkInCommand.submitSeqnum?)
    (hr : (queue.foldl accept w).requests seqnum = some request) :
    w.requests seqnum = some request := by
  induction queue generalizing w with
  | nil => exact hr
  | cons command queue ih =>
    cases command with
    | submit request' =>
      have hne : seqnum ≠ request'.header.seqnum ∧
          seqnum ∉ queue.filterMap BulkInCommand.submitSeqnum? := by
        simpa [BulkInCommand.submitSeqnum?] using hs
      have h := ih (w.accept (.submit request')) hne.2 hr
      simpa only [accept, Function.update_of_ne hne.1] using h
    | unlink seqnum' =>
      have hs' : seqnum ∉ queue.filterMap BulkInCommand.submitSeqnum? := by
        simpa [BulkInCommand.submitSeqnum?] using hs
      have h := ih (w.accept (.unlink seqnum')) hs' hr
      by_cases hk : seqnum = seqnum'
      · subst hk
        simp [accept] at h
      · simpa only [accept, Function.update_of_ne hk] using h

theorem afterBarrier_settled (w : InWorker) (seqnum len : UInt32) (result : Except String Unit) :
    (w.afterBarrier seqnum len result).1.Settled := by
  unfold afterBarrier
  dsimp only
  split
  · cases result with
    | error err =>
      dsimp only [failBarrier]
      split <;> exact settle_settled _
    | ok u =>
      dsimp only [submitRead]
      split <;> exact ⟨rfl, fun _ h => nomatch h⟩
  · exact settle_settled _

theorem complete_settled (w : InWorker) (result : Except TransferError (List UInt8)) :
    (w.complete result).1.Settled := by
  unfold complete
  cases w.activeSeqnum with
  | none => exact settle_settled _
  | some seqnum =>
    dsimp only
    split <;> exact settle_settled _

theorem step_settled {move : InMove} {events : List BulkInEvent}
    (h : w.step move = some (w', events)) (hf : ∀ sender, move ≠ .flushSent sender) :
    w'.Settled := by
  cases step_turn h with
  | opened size hp => exact settle_settled _
  | unopened hp => exact ⟨rfl, fun _ h => nomatch h⟩
  | received v hv =>
    obtain ⟨command, queue, v, hq, ht, rfl⟩ := receive_takes hv
    exact settle_settled v
  | flushing reply seqnum len hp => exact absurd rfl (hf reply)
  | passed result seqnum len flush hp => exact afterBarrier_settled w seqnum len result
  | completed result hp => exact complete_settled w result

/-- Only a barrier that is answered well lets the worker read, for the request at the head. -/
theorem afterBarrier_reads (w : InWorker) (seqnum len : UInt32) (result : Except String Unit) :
    (w.afterBarrier seqnum len result).1.reads = w.reads ∨ result = .ok () ∧
      (w.afterBarrier seqnum len result).1.reads =
        w.reads ++ ((w.drain.requests seqnum).map (·.urb)).toList := by
  unfold afterBarrier
  dsimp only
  split
  · cases result with
    | error err =>
      refine Or.inl ?_
      dsimp only [failBarrier]
      split <;> simp [forget]
    | ok u =>
      dsimp only [submitRead]
      split
      · exact Or.inl (by simp [stop])
      · exact Or.inr ⟨rfl, by simp⟩
  · exact Or.inl (by simp)

theorem complete_reads (w : InWorker) (result : Except TransferError (List UInt8)) :
    (w.complete result).1.reads = w.reads := by
  unfold complete
  cases w.activeSeqnum with
  | none => simp [endRead]
  | some seqnum =>
    dsimp only
    split <;> simp [endRead, forget]

/-- A read is submitted for the request under the sequence number of a barrier that is
    answered well. -/
theorem step_reads {move : InMove} {events : List BulkInEvent}
    (h : w.step move = some (w', events)) {urb : Urb} (hu : urb ∈ w'.reads) :
    urb ∈ w.reads ∨ ∃ seqnum request, move = .barrierResult (.ok ()) ∧
      w.phase.barrierSeqnum? = some seqnum ∧ w.drain.requests seqnum = some request ∧
      urb = request.urb := by
  cases step_turn h with
  | opened size hp => exact Or.inl (by simpa using hu)
  | unopened hp => exact Or.inl hu
  | received v hv =>
    obtain ⟨command, queue, v, hq, ht, rfl⟩ := receive_takes hv
    have hreads : v.reads = w.reads := by cases ht <;> simp
    rw [settle_reads, hreads] at hu
    exact Or.inl hu
  | flushing reply seqnum len hp => exact Or.inl hu
  | passed result seqnum len flush hp =>
    rcases afterBarrier_reads w seqnum len result with hsame | ⟨rfl, hreads⟩
    · exact Or.inl (hsame ▸ hu)
    · rw [hreads] at hu
      rcases List.mem_append.mp hu with hu | hu
      · exact Or.inl hu
      · rw [Option.mem_toList] at hu
        obtain ⟨request, hr, rfl⟩ := Option.map_eq_some_iff.mp hu
        exact Or.inr ⟨seqnum, request, rfl, by rw [hp]; rfl, hr, rfl⟩
  | completed result hp =>
    rw [complete_reads] at hu
    exact Or.inl hu

end InWorker

/-! ## What a barrier is told -/

namespace OutWorker

variable {w : OutWorker} {time time' : Nat}

theorem DeliveredBefore.mono (h : w.DeliveredBefore time) (ht : time' ≤ time) :
    w.DeliveredBefore time' := fun urb hu hlt => h urb hu (hlt.trans_le ht)

theorem flushResult_ok {flush : Option Oneshot} (h : w.flushResult flush = some (.ok ())) :
    ∃ sender, flush = some sender ∧ (sender, .ok ()) ∈ w.answers := by
  unfold flushResult at h
  split at h
  · split at h <;> cases h
  · rename_i sender
    split at h
    · rename_i result hl
      cases h
      obtain ⟨l₁, l₂, hl, -⟩ := List.lookup_eq_some_iff.mp hl
      exact ⟨sender, rfl, by rw [hl]; simp⟩
    · split at h <;> cases h

end OutWorker

namespace Connection

/-- The writes on the device before a read or a control transfer: for a read, those on the OUT
    endpoint of the same number; for a URB of endpoint 0, those on every OUT endpoint. -/
structure WritesFirst (c : Connection) : Prop where
  reads : ∀ ep w o, c.ins ep = some w → c.outs (ep &&& 0x7f) = some o →
    ∀ urb ∈ w.reads, o.DeliveredBefore urb.index
  controls : ∀ urb ∈ c.controls, ∀ ep o, c.outs ep = some o → o.DeliveredBefore urb.index

/-- Where a barrier fails, nothing is read or executed, and the URB gets a failed reply. -/
structure Refuses (prof : Profile) (c : Connection) : Prop where
  reads : ∀ ep w seqnum request err, c.ins ep = some w → w.phase.barrierSeqnum? = some seqnum →
    c.barrierResult w = some (.error err) →
    shouldSubmitBulkInAfterBarrier w.drain.pending seqnum = true →
    w.drain.requests seqnum = some request →
    ∃ t w', step prof c (.inBarrier ep) = some t ∧ t.ins ep = some w' ∧ w'.reads = w.reads ∧
      t.inEvents = c.inEvents ++
        [w.answer seqnum request fun header => .usbipRetSubmitFail header 0]
  controls : ∀ command urb remaining ep sender o err,
    c.phase = .serving command urb remaining (some (ep, sender)) → c.outs ep = some o →
    o.flushResult (some sender) = some (.error err) →
    ∃ t, step prof c .controlResult = some t ∧ t.controls = c.controls ∧
      t.wire = c.wire ++ [.submit c.session urb .handler
        (.usbipRetSubmitFail (replyHeader command.header usbipRetSubmit) 0)]

/-- When a barrier is answered, the queue of the worker holds no second `CMD_SUBMIT` with the
    sequence number that the barrier is for. -/
def NotResubmitted (c : Connection) : Action → Prop
  | .inBarrier endpoint =>
      ∀ w ∈ c.ins endpoint, ∀ seqnum ∈ w.phase.barrierSeqnum?,
        seqnum ∉ w.queue.filterMap BulkInCommand.submitSeqnum?
  | _ => True

instance (c : Connection) : ∀ a : Action, Decidable (c.NotResubmitted a)
  | .inBarrier endpoint =>
      -- The two options are looked into; enumerating the sequence numbers would not do.
      have inner (w : InWorker) : Decidable (∀ seqnum ∈ w.phase.barrierSeqnum?,
          seqnum ∉ w.queue.filterMap BulkInCommand.submitSeqnum?) :=
        Option.decidableForallMem w.phase.barrierSeqnum?
      @Option.decidableForallMem _ _ inner (c.ins endpoint)
  | .submit _ | .unlink _ _ | .importRequest | .shutdownSent _ | .importDone _ | .deliverIn
  | .deliverOut | .controlFlush _ | .controlResult | .execute _ | .inFlush _ | .inOpened _ _
  | .inCommand _ | .inCompletion _ _ | .outMove _ _ => isTrue trivial

variable {prof : Profile} {c t : Connection} {a : Action}

theorem refuses (prof : Profile) (c : Connection) : Refuses prof c where
  reads ep w seqnum request err hw hs hr hnext hreq := by
    cases hp : w.phase with
    | barrier seqnum' len flush =>
      rw [hp] at hs
      cases hs
      have hstep : w.step (.barrierResult (.error err)) =
          some ((w.drain.forget seqnum).settle,
            [w.answer seqnum request fun header => .usbipRetSubmitFail header 0]) := by
        simp only [InWorker.step, hp, InWorker.afterBarrier, hnext, if_true,
          InWorker.failBarrier, hreq]
        rw [InWorker.answer, (InWorker.drain_sheds w).address]
        rfl
      have hconn : step prof c (.inBarrier ep) = some { c with
          ins := Function.update c.ins ep (some (w.drain.forget seqnum).settle)
          inEvents := c.inEvents ++
            [w.answer seqnum request fun header => .usbipRetSubmitFail header 0] } := by
        simp only [Connection.step, hw, hr, moveIn, hstep, Option.bind_eq_bind, Option.bind_some]
      exact ⟨_, _, hconn, Function.update_self .., by simp [InWorker.forget], rfl⟩
    | _ =>
      rw [hp] at hs
      cases hs
  controls command urb remaining ep sender o err hp ho hr := by
    have hconn : step prof c .controlResult =
        some (c.controlBarrier command urb remaining ep (.error err)) := by
      simp only [Connection.step, hp, ho, hr, Option.bind_eq_bind, Option.bind_some]
    exact ⟨_, hconn, rfl, rfl⟩

/-! ## The invariant -/

/-- The OUT workers have gone on: none is new, and what was delivered stays so. -/
def Advances (clock : Nat) (outs outs' : UInt8 → Option OutWorker) : Prop :=
  ∀ ep, (outs' ep).isSome = (outs ep).isSome ∧ ∀ o', outs' ep = some o' →
    ∃ o, outs ep = some o ∧ ∀ time, time ≤ clock → o.DeliveredBefore time → o'.DeliveredBefore time

structure InGuard (clock : Nat) (outs : UInt8 → Option OutWorker) (ep : UInt8) (w : InWorker) :
    Prop where
  partner : w.outWorker.isSome = (outs (ep &&& 0x7f)).isSome ∧
    ∀ n, w.outWorker = some n → n = ep &&& 0x7f
  holds : ∀ request, w.Holds request → request.urb.index < clock
  head : ∀ seqnum, w.phase.barrierSeqnum? = some seqnum → seqnum ∈ w.pending.seqnums
  /-- The flush was sent after the URB it is waited for. -/
  flush : ∀ seqnum sender, w.phase.barrierSeqnum? = some seqnum → w.phase.flush? = some sender →
    ∀ request, w.requests seqnum = some request → request.urb.index < sender.sentAt
  reads : ∀ urb ∈ w.reads, urb.index < clock ∧
    ∀ o, outs (ep &&& 0x7f) = some o → o.DeliveredBefore urb.index

structure Guarded (c : Connection) : Prop where
  outs : ∀ ep o, c.outs ep = some o → o.Ledger c.clock
  endpoints : ∀ ep o, c.outs ep = some o → ep ∈ c.outEndpoints
  ins : ∀ ep w, c.ins ep = some w → InGuard c.clock c.outs ep w
  controls : ∀ urb ∈ c.controls, urb.index < c.clock ∧
    ∀ ep o, c.outs ep = some o → o.DeliveredBefore urb.index
  serving : ∀ command urb remaining awaiting,
    c.phase = .serving command urb remaining awaiting →
    requiresBulkOutControlBarrier urb.ep = true → urb.index < c.clock ∧
      (∀ ep o, c.outs ep = some o → ep ∈ remaining ∨ o.DeliveredBefore urb.index) ∧
      ∀ ep sender, awaiting = some (ep, sender) → urb.index < sender.sentAt

theorem Guarded.writesFirst (h : Guarded c) : c.WritesFirst where
  reads ep w o hw ho urb hu := ((h.ins ep w hw).reads urb hu).2 o ho
  controls urb hu := (h.controls urb hu).2

theorem guarded_init : Guarded {} :=
  ⟨fun _ _ h => (nomatch h), fun _ _ h => (nomatch h), fun _ _ h => (nomatch h),
    fun _ h => (nomatch h), fun _ _ _ _ h => (nomatch h)⟩

section Advancing

variable {clock clock' : Nat} {outs outs' : UInt8 → Option OutWorker} {ep : UInt8}
variable {w : InWorker} {o o' : OutWorker}

theorem advances_refl (clock : Nat) (outs : UInt8 → Option OutWorker) :
    Advances clock outs outs :=
  fun _ => ⟨rfl, fun o ho => ⟨o, ho, fun _ _ h => h⟩⟩

theorem advances_update (ho : outs ep = some o)
    (h : ∀ time, time ≤ clock → o.DeliveredBefore time → o'.DeliveredBefore time) :
    Advances clock outs (Function.update outs ep (some o')) := by
  intro n
  by_cases hn : n = ep
  · subst hn
    rw [Function.update_self, ho]
    refine ⟨rfl, fun o'' ho'' => ⟨o, rfl, ?_⟩⟩
    cases ho''
    exact h
  · rw [Function.update_of_ne hn]
    exact ⟨rfl, fun o ho => ⟨o, ho, fun _ _ h => h⟩⟩

theorem InGuard.mono (h : InGuard clock outs ep w) (hc : clock ≤ clock')
    (ha : Advances clock outs outs') : InGuard clock' outs' ep w where
  partner := by
    rw [(ha _).1]
    exact h.partner
  holds r hr := (h.holds r hr).trans_le hc
  head := h.head
  flush := h.flush
  reads urb hu := by
    obtain ⟨hlt, hd⟩ := h.reads urb hu
    refine ⟨hlt.trans_le hc, fun o' ho' => ?_⟩
    obtain ⟨o, ho, hadv⟩ := (ha _).2 o' ho'
    exact hadv _ hlt.le (hd o ho)

theorem Guarded.ins_mono (h : Guarded c) (hc : c.clock ≤ clock')
    (ha : Advances c.clock c.outs outs') :
    ∀ ep w, c.ins ep = some w → InGuard clock' outs' ep w :=
  fun ep w hw => (h.ins ep w hw).mono hc ha

theorem Guarded.controls_mono (h : Guarded c) (hc : c.clock ≤ clock')
    (ha : Advances c.clock c.outs outs') :
    ∀ urb ∈ c.controls, urb.index < clock' ∧
      ∀ ep o, outs' ep = some o → o.DeliveredBefore urb.index := by
  intro urb hu
  obtain ⟨hlt, hd⟩ := h.controls urb hu
  refine ⟨hlt.trans_le hc, fun ep o' ho' => ?_⟩
  obtain ⟨o, ho, hadv⟩ := (ha ep).2 o' ho'
  exact hadv _ hlt.le (hd ep o ho)

theorem Guarded.serving_mono (h : Guarded c) (hc : c.clock ≤ clock')
    (ha : Advances c.clock c.outs outs') :
    ∀ command urb remaining awaiting, c.phase = .serving command urb remaining awaiting →
    requiresBulkOutControlBarrier urb.ep = true → urb.index < clock' ∧
      (∀ ep o, outs' ep = some o → ep ∈ remaining ∨ o.DeliveredBefore urb.index) ∧
      ∀ ep sender, awaiting = some (ep, sender) → urb.index < sender.sentAt := by
  intro command urb remaining awaiting hp hb
  obtain ⟨hlt, hd, hs⟩ := h.serving command urb remaining awaiting hp hb
  refine ⟨hlt.trans_le hc, fun ep o' ho' => ?_, hs⟩
  obtain ⟨o, ho, hadv⟩ := (ha ep).2 o' ho'
  exact (hd ep o ho).imp id (hadv _ hlt.le)

theorem Guarded.outs_mono (h : Guarded c) (hc : c.clock ≤ clock') :
    ∀ ep o, c.outs ep = some o → o.Ledger clock' := fun ep o ho => (h.outs ep o ho).mono hc

theorem Guarded.endpoints_update (h : Guarded c) (ho : c.outs ep = some o) :
    ∀ n p, Function.update c.outs ep (some o') n = some p → n ∈ c.outEndpoints :=
  forall_update_some (P := fun n _ => n ∈ c.outEndpoints) (fun n p _ hp => h.endpoints n p hp)
    (h.endpoints ep o ho)

end Advancing

theorem not_serving (hp : c.phase = .select) {P : SubmitCommand → Urb → List UInt8 →
      Option (UInt8 × Oneshot) → Prop} :
    ∀ command urb remaining awaiting, c.phase = .serving command urb remaining awaiting →
      P command urb remaining awaiting := by
  intro command urb remaining awaiting hs
  rw [hp] at hs
  cases hs

/-! ## The barriers hold -/

/-- A barrier before a read that is answered well: the writes before the request are on the
    device. -/
theorem Guarded.delivered_of_barrier (h : Guarded c) {ep : UInt8} {w : InWorker}
    {seqnum : UInt32} {request : BulkInRequest} {o : OutWorker} (hw : c.ins ep = some w)
    (hr : c.barrierResult w = some (.ok ())) (hs : w.phase.barrierSeqnum? = some seqnum)
    (hreq : w.requests seqnum = some request) (ho : c.outs (ep &&& 0x7f) = some o) :
    o.DeliveredBefore request.urb.index := by
  have hg := h.ins ep w hw
  have hsome : w.outWorker.isSome = true := by
    rw [hg.partner.1, ho]
    rfl
  obtain ⟨n, hn⟩ := Option.isSome_iff_exists.mp hsome
  have hflush : o.flushResult w.phase.flush? = some (.ok ()) := by
    unfold barrierResult at hr
    split at hr
    · rename_i hnone
      rw [hn] at hnone
      cases hnone
    · rename_i hp hout
      rw [hp]
      rw [hn, Option.some.injEq] at hout
      rw [← hout, hg.partner.2 n hn, ho] at hr
      exact hr
    · cases hr
  obtain ⟨sender, hsender, hm⟩ := OutWorker.flushResult_ok hflush
  exact ((h.outs _ o ho).answered sender hm).mono (hg.flush seqnum sender hs hsender request hreq).le

theorem InGuard.step {outs : UInt8 → Option OutWorker} {clock : Nat} {ep : UInt8}
    {w w' : InWorker} {move : InMove} {events : List BulkInEvent} (h : InGuard clock outs ep w)
    (hs : w.step move = some (w', events)) (hf : ∀ sender, move ≠ .flushSent sender)
    (hr : ∀ seqnum request, move = .barrierResult (.ok ()) →
      w.phase.barrierSeqnum? = some seqnum → w.drain.requests seqnum = some request →
      request.urb.index < clock ∧
        ∀ o, outs (ep &&& 0x7f) = some o → o.DeliveredBefore request.urb.index) :
    InGuard clock outs ep w' := by
  have hm := InWorker.step_moves hs
  obtain ⟨hflush, hhead⟩ := InWorker.step_settled hs hf
  refine ⟨?_, fun r hw' => h.holds r (hm.holds r hw'), hhead, ?_, ?_⟩
  · rw [hm.outWorker]
    exact h.partner
  · intro seqnum sender _ hsender
    rw [hflush] at hsender
    cases hsender
  · intro urb hu
    rcases InWorker.step_reads hs hu with hu | ⟨seqnum, request, hmove, hseq, hreq, rfl⟩
    · exact h.reads urb hu
    · exact hr seqnum request hmove hseq hreq

/-- A command without a URB enters an OUT queue. -/
theorem Guarded.toldOut (h : Guarded c) {ep : UInt8} {command : BulkOutCommand}
    {outs : UInt8 → Option OutWorker} {clock' : Nat} (houts : ToldOut c.outs ep command outs)
    (hurbs : command.urbs = []) (hc : c.clock ≤ clock')
    (hs : ∀ sender, command.reply? = some sender → sender.sentAt ≤ clock') :
    (∀ n o, outs n = some o → o.Ledger clock') ∧ (∀ n o, outs n = some o → n ∈ c.outEndpoints) ∧
      Advances c.clock c.outs outs := by
  have hnone : ∀ {P : Urb → Prop}, ∀ urb ∈ command.urbs, P urb := by
    intro P urb hu
    rw [hurbs] at hu
    cases hu
  rcases houts with rfl | ⟨o, ho, rfl⟩
  · exact ⟨h.outs_mono hc, h.endpoints, advances_refl _ _⟩
  · refine ⟨?_, h.endpoints_update ho, advances_update ho fun time _ hd => hd.push hnone⟩
    exact forall_update_some (fun n p _ hp => h.outs_mono hc n p hp)
      ((h.outs ep o ho).push hc hnone hs)

theorem InGuard.push {outs : UInt8 → Option OutWorker} {clock clock' : Nat} {ep : UInt8}
    {w : InWorker} (h : InGuard clock outs ep w) (hc : clock ≤ clock') {command : BulkInCommand}
    (hu : ∀ request, command = .submit request → request.urb.index < clock') :
    InGuard clock' outs ep (w.push command) where
  partner := h.partner
  holds r hr := by
    rcases hr with hr | hr
    · rcases List.mem_append.mp hr with hr | hr
      · exact (h.holds r (Or.inl hr)).trans_le hc
      · exact hu r (List.mem_singleton.mp hr).symm
    · exact (h.holds r (Or.inr hr)).trans_le hc
  head := h.head
  flush := h.flush
  reads urb hu := ⟨(h.reads urb hu).1.trans_le hc, (h.reads urb hu).2⟩

/-! ## A step -/

theorem Guarded.submitOut (h : Guarded c) (command : SubmitCommand) {o : OutWorker}
    (hp : c.phase = .select) (ho : c.outs (realEp command.header) = some o) :
    Guarded { c with
      clock := c.clock + 1
      outs := Function.update c.outs (realEp command.header) (some (o.push (.submit
        ⟨command.header, command.data, c.bulkOutGeneration, c.urbOf command⟩)))
      pendingBulkOut := insert command.header.seqnum c.pendingBulkOut
      bulkOutSeqnums := Function.update c.bulkOutSeqnums command.header.seqnum
        (some (realEp command.header)) } := by
  have hadv : Advances c.clock c.outs (Function.update c.outs (realEp command.header)
      (some (o.push (.submit
        ⟨command.header, command.data, c.bulkOutGeneration, c.urbOf command⟩)))) := by
    refine advances_update ho fun time ht hd => hd.push fun urb hu => ?_
    -- the URB is younger than every read and every control transfer there has been
    rw [List.mem_singleton.mp hu]
    exact ht
  refine ⟨?_, h.endpoints_update ho, h.ins_mono (Nat.le_succ _) hadv,
    h.controls_mono (Nat.le_succ _) hadv, not_serving hp⟩
  refine forall_update_some (fun n p _ hp => h.outs_mono (Nat.le_succ _) n p hp) ?_
  refine (h.outs _ o ho).push (Nat.le_succ _) (fun urb hu => ?_) (fun _ hs => nomatch hs)
  rw [List.mem_singleton.mp hu]
  exact ⟨rfl, Nat.lt_succ_self _⟩

theorem Guarded.importDone (h : Guarded c) (outcome : ImportOutcome) :
    Guarded (c.importDone outcome) := by
  unfold Connection.importDone
  cases outcome with
  | rejected =>
    exact ⟨fun _ _ h => (nomatch h), fun _ _ h => (nomatch h), fun _ _ h => (nomatch h),
      fun urb hu => ⟨(h.controls urb hu).1, fun _ _ h => (nomatch h)⟩,
      fun _ _ _ _ h => (nomatch h)⟩
  | refused =>
    exact ⟨fun _ _ h => (nomatch h), fun _ _ h => (nomatch h), fun _ _ h => (nomatch h),
      fun urb hu => ⟨(h.controls urb hu).1, fun _ _ h => (nomatch h)⟩,
      fun _ _ _ _ h => (nomatch h)⟩
  | succeeded device opens =>
    refine ⟨?_, fun ep o ho => (startedOut_eq_some.mp ho).1, ?_, ?_, fun _ _ _ _ h => nomatch h⟩
    · intro ep o ho
      rw [← (startedOut_eq_some.mp ho).2]
      exact OutWorker.ledger_start _ _
    · intro ep w hw
      obtain ⟨-, rfl⟩ := startBulkInWorkers_eq_some.mp hw
      refine ⟨⟨?_, ?_⟩, ?_, fun _ h => (nomatch h), ?_, fun _ h => nomatch h⟩
      · dsimp only
        split <;> rfl
      · intro n hn
        dsimp only at hn
        split at hn
        · exact (Option.some.inj hn).symm
        · cases hn
      · rintro r (hr | ⟨s, hr⟩) <;> cases hr
      · intro _ _ hs
        cases hs
    · refine fun urb hu => ⟨(h.controls urb hu).1, fun ep o ho => ?_⟩
      rw [← (startedOut_eq_some.mp ho).2]
      intro _ hm
      cases hm

theorem Guarded.execute (h : Guarded c) {command : SubmitCommand} {urb : Urb}
    {device : UsbDevice} {host : Host} (hp : c.phase = .serving command urb [] none) :
    Guarded (c.execute prof command urb device host) := by
  have hcontrols : ∀ u ∈ c.controls ++ (if requiresBulkOutControlBarrier urb.ep then [urb] else []),
      u.index < c.clock ∧ ∀ ep o, c.outs ep = some o → o.DeliveredBefore u.index := by
    intro u hu
    rcases List.mem_append.mp hu with hu | hu
    · exact h.controls u hu
    · split at hu
      · rename_i hb
        obtain ⟨hlt, hd, -⟩ := h.serving _ _ _ _ hp hb
        rw [List.mem_singleton.mp hu]
        refine ⟨hlt, fun ep o ho => ?_⟩
        rcases hd ep o ho with hm | hd
        · cases hm
        · exact hd
      · cases hu
  unfold Connection.execute
  dsimp only
  split <;> exact ⟨h.outs, h.endpoints, h.ins, hcontrols, fun _ _ _ _ h => nomatch h⟩

theorem Guarded.controlPassed (h : Guarded c) {command : SubmitCommand} {urb : Urb}
    {remaining : List UInt8} {endpoint : UInt8} {sender : Oneshot} {w : OutWorker}
    (hp : c.phase = .serving command urb remaining (some (endpoint, sender)))
    (hw : c.outs endpoint = some w) (hr : w.flushResult (some sender) = some (.ok ())) :
    Guarded (c.controlBarrier command urb remaining endpoint (.ok ())) := by
  refine ⟨h.outs, h.endpoints, h.ins, h.controls, ?_⟩
  intro _ _ _ _ hs hb
  cases hs
  obtain ⟨hlt, hd, hsent⟩ := h.serving _ _ _ _ hp hb
  refine ⟨hlt, fun ep o ho => ?_, fun _ _ h => nomatch h⟩
  by_cases he : ep = endpoint
  · subst he
    obtain rfl : w = o := Option.some.inj (hw.symm.trans ho)
    obtain ⟨sender', hs', hm⟩ := OutWorker.flushResult_ok hr
    cases hs'
    exact Or.inr (((h.outs ep w hw).answered sender hm).mono (hsent ep sender rfl).le)
  · exact (hd ep o ho).imp (fun hm => List.mem_filter.mpr ⟨hm, by simpa using he⟩) id

theorem Guarded.step (h : Guarded c) (hn : c.NotResubmitted a) (he : Effect prof c a t) :
    Guarded t := by
  have hrefl := advances_refl c.clock c.outs
  have hsucc := Nat.le_succ c.clock
  cases he with
  | ignored command hd hp =>
    exact ⟨h.outs_mono hsucc, h.endpoints, h.ins_mono hsucc hrefl, h.controls_mono hsucc hrefl,
      h.serving_mono hsucc hrefl⟩
  | submitIn command w hp hw =>
    refine ⟨h.outs_mono hsucc, h.endpoints, ?_, h.controls_mono hsucc hrefl, not_serving hp⟩
    refine forall_update_some (fun ep v _ hv => h.ins_mono hsucc hrefl ep v hv) ?_
    refine (h.ins _ w hw).push hsucc fun request hr => ?_
    cases hr
    exact Nat.lt_succ_self _
  | submitOut command w hp hw => exact h.submitOut command hp hw
  | serve command remaining hp hr =>
    refine ⟨h.outs_mono hsucc, h.endpoints, h.ins_mono hsucc hrefl,
      h.controls_mono hsucc hrefl, ?_⟩
    intro _ _ _ _ hs hb
    cases hs
    refine ⟨Nat.lt_succ_self _, fun ep o ho => Or.inl ?_, fun _ _ h => nomatch h⟩
    rw [hr hb]
    exact h.endpoints ep o ho
  | unlinkIn header seqnum endpoint ins hp hs hins =>
    refine ⟨h.outs_mono hsucc, h.endpoints, ?_, h.controls_mono hsucc hrefl, not_serving hp⟩
    rcases hins with rfl | ⟨w, hw, rfl⟩
    · exact h.ins_mono hsucc hrefl
    · exact forall_update_some (fun ep v _ hv => h.ins_mono hsucc hrefl ep v hv)
        ((h.ins _ w hw).push hsucc fun _ h => nomatch h)
  | unlinkOut header seqnum endpoint outs hp hs houts =>
    obtain ⟨hl, hend, hadv⟩ := h.toldOut houts rfl hsucc (fun _ h => nomatch h)
    exact ⟨hl, hend, h.ins_mono hsucc hadv, h.controls_mono hsucc hadv, not_serving hp⟩
  | unlinkUnknown header seqnum hp =>
    exact ⟨h.outs_mono hsucc, h.endpoints, h.ins_mono hsucc hrefl, h.controls_mono hsucc hrefl,
      h.serving_mono hsucc hrefl⟩
  | importRequest hp =>
    exact ⟨h.outs_mono hsucc, h.endpoints, fun _ _ h => (nomatch h),
      h.controls_mono hsucc hrefl, fun _ _ _ _ h => nomatch h⟩
  | shutdownSent endpoint remaining outs hp houts =>
    obtain ⟨hl, hend, hadv⟩ := h.toldOut houts rfl le_rfl (fun _ hs => Option.some.inj hs ▸ le_rfl)
    exact ⟨hl, hend, h.ins_mono le_rfl hadv, h.controls_mono le_rfl hadv,
      fun _ _ _ _ h => nomatch h⟩
  | importDone outcome hp => exact h.importDone outcome
  | deliverIn event rest hp he =>
    rw [deliverIn_eq]
    exact ⟨h.outs, h.endpoints, h.ins, h.controls, h.serving⟩
  | deliverOut event rest hp he =>
    rw [deliverOut_eq]
    split <;> exact ⟨h.outs, h.endpoints, h.ins, h.controls, h.serving⟩
  | controlFlush command urb remaining endpoint w hp hw =>
    have hto : ToldOut c.outs endpoint (.flush ⟨c.nextReply, c.clock⟩) _ :=
      Or.inr ⟨w, hw, rfl⟩
    obtain ⟨hl, hend, hadv⟩ := h.toldOut hto rfl le_rfl
      (fun _ hs => Option.some.inj hs ▸ le_rfl)
    refine ⟨hl, hend, h.ins_mono le_rfl hadv, h.controls_mono le_rfl hadv, ?_⟩
    intro _ _ _ _ hs hb
    cases hs
    obtain ⟨hlt, hd, -⟩ := h.serving_mono le_rfl hadv _ _ _ _ hp hb
    refine ⟨hlt, hd, fun ep sender hs => ?_⟩
    cases hs
    exact hlt
  | controlFailed a command urb remaining awaiting endpoint err hp ha =>
    exact ⟨h.outs, h.endpoints, h.ins, h.controls, fun _ _ _ _ h => nomatch h⟩
  | controlPassed command urb remaining endpoint sender w hp hw hr =>
    exact h.controlPassed hp hw hr
  | execute host command urb device hp hd => exact h.execute hp
  | inFlush endpoint w out o seqnum len hw ho hout hwp =>
    have hto : ToldOut c.outs out (.flush ⟨c.nextReply, c.clock⟩) _ := Or.inr ⟨o, hout, rfl⟩
    obtain ⟨hl, hend, hadv⟩ := h.toldOut hto rfl le_rfl
      (fun _ hs => Option.some.inj hs ▸ le_rfl)
    have hg := (h.ins endpoint w hw).mono le_rfl hadv
    refine ⟨hl, hend, ?_, h.controls_mono le_rfl hadv, h.serving_mono le_rfl hadv⟩
    refine forall_update_some (fun ep v _ hv => h.ins_mono le_rfl hadv ep v hv) ?_
    refine ⟨hg.partner, hg.holds, ?_, ?_, hg.reads⟩
    · intro s hs
      exact hg.head s (by rwa [hwp])
    · intro _ sender _ hsender request hr
      cases hsender
      exact hg.holds request (Or.inr ⟨_, hr⟩)
  | inMove endpoint move w w' events hw hs hf hb =>
    have hg := h.ins endpoint w hw
    refine ⟨h.outs, h.endpoints, ?_, h.controls, h.serving⟩
    refine forall_update_some (fun ep v _ hv => h.ins ep v hv) ?_
    refine hg.step hs hf fun seqnum request hmove hseq hreq => ?_
    subst hmove
    have hnot : seqnum ∉ w.queue.filterMap BulkInCommand.submitSeqnum? := hn w hw seqnum hseq
    have hreq' : w.requests seqnum = some request :=
      InWorker.acceptAll_requests w.queue w hnot hreq
    exact ⟨hg.holds request (Or.inr ⟨seqnum, hreq'⟩),
      fun o ho => h.delivered_of_barrier hw (hb _ rfl) hseq hreq' ho⟩
  | outMove endpoint move w w' events hw hs =>
    have ht := OutWorker.step_turn hs
    have hadv : Advances c.clock c.outs (Function.update c.outs endpoint (some w')) :=
      advances_update hw fun _ _ hd => ht.deliveredBefore hd
    refine ⟨?_, h.endpoints_update hw, h.ins_mono le_rfl hadv, h.controls_mono le_rfl hadv,
      h.serving_mono le_rfl hadv⟩
    exact forall_update_some (fun n p _ hp => h.outs n p hp) ((h.outs endpoint w hw).turn ht)

/-- **Writes come before reads.** In every run in which no barrier is answered over a queue
    that holds its sequence number again: when a read is submitted for a URB, or a URB of
    endpoint 0 executed, the bulk-OUT URBs dispatched before it are on the device; and where
    the barrier fails, nothing is read or executed, and the URB is answered with a failure. -/
theorem writesFirst_of_notResubmitted (prof : Profile) (acts : List Action)
    (h : Along (step prof) NotResubmitted {} acts) :
    Throughout (step prof) (fun c => c.WritesFirst ∧ c.Refuses prof) {} acts :=
  throughout_of_along (fun _ _ _ hs hn hstep => Guarded.step hs hn (step_effect hstep))
    (fun c hs => ⟨hs.writesFirst, refuses prof c⟩) guarded_init h

/-- A write, a read after it, and the flush between them. -/
def writeThenRead : List Action :=
  attach ++ [submitWrite 1, submitRead 2, .inCommand 0x81, .inFlush 0x81, .outMove 1 .command,
    .outMove 1 (.io (.ok ())), .outMove 1 .command, .outMove 1 (.io (.ok ())), .inBarrier 0x81]

theorem writeThenRead_writesFirst :
    Throughout (step .release) (fun c => c.WritesFirst ∧ c.Refuses .release) {} writeThenRead :=
  writesFirst_of_notResubmitted .release writeThenRead (by decide +kernel)

/-- The read waits at its barrier. Its URB is unlinked and submitted again, with a write in
    between; then the barrier is answered. -/
def resubmitAtBarrier : List Action :=
  attach ++ [submitRead 1, .inCommand 0x81, .inFlush 0x81, .outMove 1 .command,
    unlinkUrb 2 1, submitWrite 3, submitRead 1, .inBarrier 0x81]

/-- **The second submit passes for the first one**: the read goes ahead for it, and the write
    before it has not left the queue. -/
theorem resubmitAtBarrier_not_writesFirst :
    ¬ ∀ acts, Throughout (step .release) (fun c => c.WritesFirst ∧ c.Refuses .release) {}
      acts := by
  intro h
  have hrun : (run (step .release) {} resubmitAtBarrier).any (fun c =>
      (c.ins 0x81).any fun w => (c.outs (0x81 &&& 0x7f)).any fun o => w.reads.any fun u =>
        o.accepted.any fun v => v.index < u.index ∧ v ∉ o.delivered) = true := by decide +kernel
  obtain ⟨c, hc, hw⟩ := (Option.any_eq_true _ _).mp hrun
  obtain ⟨w, hw, ho⟩ := (Option.any_eq_true _ _).mp hw
  obtain ⟨o, ho, hu⟩ := (Option.any_eq_true _ _).mp ho
  obtain ⟨u, hu, hv⟩ := List.any_eq_true.mp hu
  obtain ⟨v, hv, hlt⟩ := List.any_eq_true.mp hv
  obtain ⟨hlt, hnot⟩ := of_decide_eq_true hlt
  exact hnot (((h _).of_run hc).1.reads 0x81 w o hw ho u hu v hv hlt)

end Connection
end Lusbip
