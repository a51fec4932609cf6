import Lusbip.Session.BulkIn

/-!
# The books of the bulk-IN worker

What the worker holds only shrinks when it moves: it answers or drops requests, and gets new
ones from the handler alone. `Sheds` is that relation, a preorder with one lemma for each
part of the worker's loop; `step_sheds` composes them, and counts an event against the
request that it answers. The counts are per sequence number, over the submits in the queue
and the entries of `pending`.
-/

namespace Lusbip

def BulkInCommand.submitSeqnum? : BulkInCommand → Option UInt32
  | .submit request => some request.header.seqnum
  | .unlink _ => none

namespace InWorker

/-- The worker has the request, in its queue or among the requests it has taken. -/
def Holds (w : InWorker) (request : BulkInRequest) : Prop :=
  .submit request ∈ w.queue ∨ ∃ seqnum, w.requests seqnum = some request

/-- The sequence numbers a worker may still answer. -/
def held (w : InWorker) : List UInt32 :=
  w.queue.filterMap BulkInCommand.submitSeqnum? ++ w.pending.seqnums

/-- Requests are filed under their own sequence numbers. -/
def Keyed (w : InWorker) : Prop :=
  ∀ seqnum request, w.requests seqnum = some request → request.header.seqnum = seqnum

/-- `w'` is left of `w` when some requests are dropped. -/
structure Sheds (w w' : InWorker) : Prop where
  address : w'.address = w.address
  outWorker : w'.outWorker = w.outWorker
  received : w'.received = w.received
  holds : ∀ request, w'.Holds request → w.Holds request
  keyed : w.Keyed → w'.Keyed
  held : ∀ seqnum, w'.held.count seqnum ≤ w.held.count seqnum

variable {w w' w'' : InWorker}

theorem Sheds.refl (w : InWorker) : Sheds w w :=
  ⟨rfl, rfl, rfl, fun _ h => h, fun h => h, fun _ => le_rfl⟩

theorem Sheds.trans (h : Sheds w w') (h' : Sheds w' w'') : Sheds w w'' where
  address := h'.address.trans h.address
  outWorker := h'.outWorker.trans h.outWorker
  received := h'.received.trans h.received
  holds r hr := h.holds r (h'.holds r hr)
  keyed hk := h'.keyed (h.keyed hk)
  held s := (h'.held s).trans (h.held s)

/-- What is neither queue, pending entry nor request may change freely. -/
theorem Sheds.congr (h : Sheds w w') (ha : w''.address = w'.address)
    (ho : w''.outWorker = w'.outWorker) (hr : w''.received = w'.received)
    (hq : w''.queue = w'.queue) (hp : w''.pending = w'.pending)
    (hreq : w''.requests = w'.requests) : Sheds w w'' := by
  refine h.trans ⟨ha, ho, hr, ?_, ?_, ?_⟩
  · intro r hr
    rwa [Holds, hq, hreq] at hr
  · intro hk
    rwa [Keyed, hreq]
  · intro s
    rw [InWorker.held, hq, hp]
    exact le_rfl

/-! ## The parts of the loop -/

theorem stop_sheds (w : InWorker) : Sheds w w.stop where
  address := rfl
  outWorker := rfl
  received := rfl
  holds r hr := by
    rcases hr with hr | ⟨s, hr⟩
    · cases hr
    · cases hr
  keyed _ := fun _ _ h => nomatch h
  held s := Nat.zero_le _

theorem settle_sheds (w : InWorker) : Sheds w w.settle := by
  unfold settle
  split
  · exact (Sheds.refl w).congr rfl rfl rfl rfl rfl rfl
  · have hsub := List.dropWhile_sublist (fun seqnum => (w.requests seqnum).isNone)
      (l := w.pending.seqnums)
    dsimp only
    split
    · refine ⟨rfl, rfl, rfl, fun r hr => hr, fun hk => hk, fun s => ?_⟩
      simp only [held, List.append_nil, List.count_append]
      exact Nat.le_add_right _ _
    · rename_i seqnum rest hw
      rw [hw] at hsub
      refine ⟨rfl, rfl, rfl, fun r hr => hr, fun hk => hk, fun s => ?_⟩
      simp only [held, List.count_append]
      exact Nat.add_le_add_left (hsub.count_le s) _

theorem forget_sheds (w : InWorker) (seqnum : UInt32) : Sheds w (w.forget seqnum) where
  address := rfl
  outWorker := rfl
  received := rfl
  holds r hr := by
    rcases hr with hr | ⟨s, hr⟩
    · exact Or.inl hr
    · by_cases hs : s = seqnum
      · subst hs
        simp [forget] at hr
      · exact Or.inr ⟨s, by simpa [forget, hs] using hr⟩
  keyed hk s r hr := by
    by_cases hs : s = seqnum
    · subst hs
      simp [forget] at hr
    · exact hk s r (by simpa [forget, hs] using hr)
  held s := by
    simp only [InWorker.held, forget, PendingBulkIn.unlink, List.count_append]
    exact Nat.add_le_add_left ((List.erase_sublist).count_le s) _

/-- The entry that is forgotten is one that is counted. -/
theorem forget_held {seqnum : UInt32} (hp : seqnum ∈ w.pending.seqnums) (s : UInt32) :
    [seqnum].count s + (w.forget seqnum).held.count s ≤ w.held.count s := by
  simp only [held, forget, PendingBulkIn.unlink, List.count_append, List.count_erase,
    List.count_singleton]
  have hpos := List.count_pos_iff.mpr hp
  by_cases hs : seqnum = s
  · subst hs
    simp only [beq_self_eq_true, if_true]
    omega
  · simp [hs]

theorem drop_sheds (w : InWorker) (command : BulkInCommand) (queue : List BulkInCommand) :
    Sheds { w with queue := command :: queue } { w with queue := queue } := by
  refine ⟨rfl, rfl, rfl, ?_, fun hk => hk, ?_⟩
  · intro r hr
    exact hr.imp (List.mem_cons_of_mem _) id
  · intro s
    exact (((List.sublist_cons_self command queue).filterMap _).append_right _).count_le s

/-- A command is taken off the queue. -/
theorem accept_sheds (w : InWorker) (command : BulkInCommand) (queue : List BulkInCommand) :
    Sheds { w with queue := command :: queue } { w.accept command with queue := queue } := by
  cases command with
  | unlink seqnum =>
    have hforget : Sheds { w with queue := queue } { w.accept (.unlink seqnum) with queue := queue } :=
      forget_sheds { w with queue := queue } seqnum
    exact (drop_sheds w _ queue).trans hforget
  | submit request =>
    refine ⟨rfl, rfl, rfl, ?_, ?_, ?_⟩
    · intro r hr
      rcases hr with hr | ⟨s, hr⟩
      · exact Or.inl (List.mem_cons_of_mem _ hr)
      · by_cases hs : s = request.header.seqnum
        · subst hs
          simp only [accept, Function.update_self, Option.some.injEq] at hr
          subst hr
          exact Or.inl List.mem_cons_self
        · exact Or.inr ⟨s, by simpa [accept, hs] using hr⟩
    · intro hk s r hr
      by_cases hs : s = request.header.seqnum
      · subst hs
        simp only [accept, Function.update_self, Option.some.injEq] at hr
        rw [hr]
      · exact hk s r (by simpa [accept, hs] using hr)
    · intro s
      simp only [held, accept, PendingBulkIn.push, List.count_append, List.filterMap_cons,
        BulkInCommand.submitSeqnum?, List.count_cons, List.count_nil]
      omega

theorem acceptAll_sheds (queue : List BulkInCommand) (w : InWorker) :
    Sheds { w with queue := queue } { queue.foldl accept w with queue := [] } := by
  induction queue generalizing w with
  | nil => exact Sheds.refl _
  | cons command queue ih => exact (accept_sheds w command queue).trans (ih (w.accept command))

theorem drain_sheds (w : InWorker) : Sheds w w.drain := acceptAll_sheds w.queue w

theorem receive_sheds (h : w.receive = some w') : Sheds w w' := by
  obtain ⟨command, queue, v, hq, ht, rfl⟩ := receive_takes h
  have haccept := with_queue hq ▸ accept_sheds w command queue
  refine Sheds.trans ?_ (settle_sheds v)
  cases ht with
  | accepted => exact haccept
  | cancelled seqnum hc hp =>
    subst hc
    exact haccept.congr rfl rfl rfl rfl rfl rfl
  | skipped seqnum hc hp => exact with_queue hq ▸ drop_sheds w command queue

theorem submitRead_sheds (w : InWorker) (seqnum len : UInt32) :
    Sheds w (w.submitRead seqnum len) := by
  unfold submitRead
  split
  · exact stop_sheds w
  · exact (Sheds.refl w).congr rfl rfl rfl rfl rfl rfl

/-! ## Completions -/

/-- The request that the outstanding read was submitted for, if it still waits. -/
def activeRequest (w : InWorker) : Option BulkInRequest :=
  w.activeSeqnum.bind fun seqnum =>
    if w.pending.contains seqnum then w.requests seqnum else none

/-- A completion for which the worker has no request sends nothing. -/
theorem complete_of_none (h : w.activeRequest = none)
    (result : Except TransferError (List UInt8)) :
    (w.complete result).1.received = (w.endRead result).received ∧
      (w.complete result).2 = [] := by
  unfold complete
  unfold activeRequest at h
  cases hs : w.activeSeqnum with
  | none => exact ⟨(settle_sheds _).received, rfl⟩
  | some seqnum =>
    rw [hs, Option.bind_some] at h
    dsimp only
    split
    · rename_i request hp hr
      rw [if_pos hp, hr] at h
      cases h
    · exact ⟨(settle_sheds _).received.trans (forget_sheds _ seqnum).received, rfl⟩

theorem complete_of_some {request : BulkInRequest} (h : w.activeRequest = some request)
    (result : Except TransferError (List UInt8)) :
    (w.complete result).1.received = (w.endRead result).received ∧
      w.pending.seqnums ≠ [] ∧
      ∃ seqnum, (w.complete result).2 =
        [w.answer seqnum request (completionResponse result)] := by
  unfold complete
  unfold activeRequest at h
  obtain ⟨seqnum, hs, h⟩ := Option.bind_eq_some_iff.mp h
  split at h
  · rename_i hp
    rw [hs]
    dsimp only
    rw [hp, h]
    refine ⟨(settle_sheds _).received.trans (forget_sheds _ seqnum).received, ?_, seqnum, rfl⟩
    exact List.ne_nil_of_mem (of_decide_eq_true hp)
  · cases h

/-! ## A step -/

/-- An event answers a request that the worker holds. -/
structure Answers (w : InWorker) (event : BulkInEvent) : Prop where
  endpoint : event.endpoint = w.address
  held : ∃ request, w.Holds request ∧ event.urb = request.urb ∧
    event.response.submitSeqnum? = some request.header.seqnum ∧
    (w.Keyed → request.header.seqnum = event.seqnum)

/-- `w` has become `w'`, and has sent the events. -/
structure Moves (w w' : InWorker) (events : List BulkInEvent) : Prop where
  address : w'.address = w.address
  outWorker : w'.outWorker = w.outWorker
  holds : ∀ request, w'.Holds request → w.Holds request
  keyed : w.Keyed → w'.Keyed
  answers : ∀ event ∈ events, w.Answers event
  held : ∀ seqnum, (events.map (·.seqnum)).count seqnum + w'.held.count seqnum ≤
    w.held.count seqnum

theorem Sheds.moves (h : Sheds w w') : Moves w w' [] :=
  ⟨h.address, h.outWorker, h.holds, h.keyed, fun _ h => (nomatch h),
    fun s => by simpa using h.held s⟩

/-- Requests may be dropped before a move and after it. -/
theorem Moves.shed {w₀ : InWorker} {events : List BulkInEvent} (h : Moves w w' events)
    (h₀ : Sheds w₀ w) (h' : Sheds w' w'') : Moves w₀ w'' events where
  address := (h'.address.trans h.address).trans h₀.address
  outWorker := (h'.outWorker.trans h.outWorker).trans h₀.outWorker
  holds r hr := h₀.holds r (h.holds r (h'.holds r hr))
  keyed hk := h'.keyed (h.keyed (h₀.keyed hk))
  answers e he := by
    obtain ⟨hend, r, hr, hurb, hresp, hseq⟩ := h.answers e he
    exact ⟨hend.trans h₀.address, r, h₀.holds r hr, hurb, hresp, fun hk => hseq (h₀.keyed hk)⟩
  held s := (Nat.add_le_add_left (h'.held s) _).trans ((h.held s).trans (h₀.held s))

/-- The request under a pending entry is answered, and the entry forgotten. -/
theorem forget_moves {seqnum : UInt32} {request : BulkInRequest}
    {response : UsbIpHeaderBasic → UsbIpResponse} (hp : seqnum ∈ w.pending.seqnums)
    (hr : w.requests seqnum = some request)
    (hresp : ∀ header, (response header).submitSeqnum? = some header.seqnum) :
    Moves w (w.forget seqnum) [w.answer seqnum request response] where
  address := rfl
  outWorker := rfl
  holds := (forget_sheds w seqnum).holds
  keyed := (forget_sheds w seqnum).keyed
  answers e he := by
    rw [List.mem_singleton.mp he]
    exact ⟨rfl, request, Or.inr ⟨seqnum, hr⟩, rfl, hresp _, fun hk => hk seqnum request hr⟩
  held := forget_held hp

theorem mem_of_shouldSubmit {pending : PendingBulkIn} {seqnum : UInt32}
    (h : shouldSubmitBulkInAfterBarrier pending seqnum = true) : seqnum ∈ pending.seqnums :=
  List.mem_of_mem_head? (of_decide_eq_true h)

theorem failBarrier_moves {seqnum : UInt32} (hp : seqnum ∈ w.pending.seqnums) :
    Moves w (w.failBarrier seqnum).1 (w.failBarrier seqnum).2 := by
  unfold failBarrier
  cases hr : w.requests seqnum with
  | some request =>
    exact (forget_moves hp hr fun _ => rfl).shed (Sheds.refl w) (settle_sheds _)
  | none =>
    have hdrop : Sheds w { w with pending := w.pending.unlink seqnum } :=
      ⟨rfl, rfl, rfl, fun r hr => hr, fun hk => hk, (forget_sheds w seqnum).held⟩
    exact (hdrop.trans (settle_sheds _)).moves

theorem afterBarrier_moves (w : InWorker) (seqnum len : UInt32) (result : Except String Unit) :
    Moves w (w.afterBarrier seqnum len result).1 (w.afterBarrier seqnum len result).2 := by
  unfold afterBarrier
  dsimp only
  split
  · rename_i hnext
    cases result with
    | error err =>
      exact (failBarrier_moves (mem_of_shouldSubmit hnext)).shed (drain_sheds w) (Sheds.refl _)
    | ok u => exact ((drain_sheds w).trans (submitRead_sheds _ seqnum len)).moves
  · exact ((drain_sheds w).trans (settle_sheds _)).moves

theorem completionResponse_seqnum (result : Except TransferError (List UInt8))
    (header : UsbIpHeaderBasic) :
    (completionResponse result header).submitSeqnum? = some header.seqnum := by
  cases result <;> rfl

/-- The endpoint's side of a completion leaves the books alone. -/
theorem endRead_moves (result : Except TransferError (List UInt8))
    {events : List BulkInEvent} (h : Moves (w.endRead result) w' events) : Moves w w' events :=
  ⟨h.address, h.outWorker, h.holds, h.keyed,
    fun e he => ⟨(h.answers e he).endpoint, (h.answers e he).held⟩, h.held⟩

theorem complete_moves (w : InWorker) (result : Except TransferError (List UInt8)) :
    Moves w (w.complete result).1 (w.complete result).2 := by
  refine endRead_moves result ?_
  unfold complete
  cases w.activeSeqnum with
  | none => exact (settle_sheds _).moves
  | some seqnum =>
    dsimp only
    split
    · rename_i request hp hr
      exact (forget_moves (w := w.endRead result) (of_decide_eq_true hp) hr
        (completionResponse_seqnum result)).shed (Sheds.refl _) (settle_sheds _)
    · exact ((forget_sheds _ seqnum).trans (settle_sheds _)).moves

/-- **What a step of the worker does to its books.** -/
theorem step_moves {move : InMove} {events : List BulkInEvent}
    (h : w.step move = some (w', events)) : Moves w w' events := by
  cases step_turn h with
  | opened size hp =>
    have hsize : Sheds w { w with maxPacketSize := size } :=
      (Sheds.refl w).congr rfl rfl rfl rfl rfl rfl
    exact (hsize.trans (settle_sheds _)).moves
  | unopened hp => exact (stop_sheds w).moves
  | received v hv => exact (receive_sheds hv).moves
  | flushing reply seqnum len hp =>
    have hphase : Sheds w { w with phase := .barrier seqnum len (some reply) } :=
      (Sheds.refl w).congr rfl rfl rfl rfl rfl rfl
    exact hphase.moves
  | passed result seqnum len flush hp => exact afterBarrier_moves w seqnum len result
  | completed result hp => exact complete_moves w result

/-! ## The reads outstanding -/

@[simp] theorem settle_outstanding (w : InWorker) : w.settle.outstanding = w.outstanding := by
  unfold settle
  split
  · rfl
  · dsimp only
    split <;> rfl

theorem acceptAll_outstanding (queue : List BulkInCommand) (w : InWorker) :
    (queue.foldl InWorker.accept w).outstanding = w.outstanding := by
  induction queue generalizing w with
  | nil => rfl
  | cons command queue ih =>
    rw [List.foldl_cons, ih]
    cases command <;> rfl

@[simp] theorem drain_outstanding (w : InWorker) : w.drain.outstanding = w.outstanding :=
  acceptAll_outstanding w.queue w

theorem failBarrier_outstanding (w : InWorker) (seqnum : UInt32) :
    (w.failBarrier seqnum).1.outstanding = w.outstanding := by
  unfold failBarrier
  split <;> exact settle_outstanding _

/-- The read that has completed is the first one. -/
theorem complete_outstanding (w : InWorker) (result : Except TransferError (List UInt8)) :
    (w.complete result).1.outstanding = w.outstanding.tail := by
  unfold complete
  cases w.activeSeqnum with
  | none => exact settle_outstanding (w.endRead result)
  | some seqnum =>
    dsimp only
    split
    · exact settle_outstanding ((w.endRead result).forget seqnum)
    · exact settle_outstanding ((w.endRead result).forget seqnum)

theorem submitRead_outstanding (w : InWorker) (seqnum len : UInt32) :
    ∀ n ∈ (w.submitRead seqnum len).outstanding, n ∈ w.outstanding ∨ n < 2 ^ 32 := by
  intro n hn
  by_cases hlen : Readable len w.maxPacketSize
  · rw [submitRead_of_readable hlen] at hn
    refine (List.mem_append.mp hn).imp id fun hn => ?_
    rw [List.mem_singleton.mp hn]
    exact hlen.2
  · rw [submitRead_of_not_readable hlen] at hn
    exact Or.inl hn

/-- **A read is for less than 2^32 bytes**: there is no buffer for a longer one. -/
theorem step_outstanding {move : InMove} {events : List BulkInEvent}
    (h : w.step move = some (w', events)) :
    ∀ n ∈ w'.outstanding, n ∈ w.outstanding ∨ n < 2 ^ 32 := by
  intro n hn
  cases step_turn h with
  | opened size hp =>
    rw [settle_outstanding] at hn
    exact Or.inl hn
  | unopened hp => exact Or.inl hn
  | received v hv =>
    obtain ⟨command, queue, u, hq, ht, rfl⟩ := receive_takes hv
    rw [settle_outstanding] at hn
    cases ht with
    | accepted => cases command <;> exact Or.inl hn
    | cancelled seqnum hc hp => exact Or.inl hn
    | skipped seqnum hc hp => exact Or.inl hn
  | flushing reply seqnum len hp => exact Or.inl hn
  | passed result seqnum len flush hp =>
    rw [← drain_outstanding w]
    unfold afterBarrier at hn
    dsimp only at hn
    split at hn
    · cases result with
      | error err => exact Or.inl (failBarrier_outstanding w.drain seqnum ▸ hn)
      | ok u => exact submitRead_outstanding w.drain seqnum len n hn
    · rw [settle_outstanding] at hn
      exact Or.inl hn
  | completed result hp =>
    rw [complete_outstanding] at hn
    exact Or.inl (List.mem_of_mem_tail hn)

end InWorker
end Lusbip
