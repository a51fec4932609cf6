import Mathlib.Data.List.TakeWhile
import Lusbip.Session.Outcomes
import Lusbip.Session.Replies

/-!
# URBs that a worker has accepted

The handler records a bulk URB as soon as the channel of its worker has taken it, and gets
rid of the record with the completion event or an unlink. In between the URB has to be
somewhere: in the queue, among the pending requests, or in an event on its way back.

A worker does not lose a URB while it runs, whatever the order of commands, barriers and
completions. But it may end: `run_bulk_in_worker` opens its endpoint when it is running
already, and returns where it cannot, while `start_bulk_out_workers` opens the writer before
there is a channel at all. What the channel of a bulk-IN worker has taken by then is dropped
with it, and stays recorded.
-/

namespace Lusbip

open Lib.Transition

namespace InWorker

variable {w w' : InWorker} {k : UInt32}

/-- The worker can still answer the URB: it stands in the queue, or is pending with its
    request. -/
def Waits (w : InWorker) (k : UInt32) : Prop :=
  (∃ request, .submit request ∈ w.queue ∧ request.header.seqnum = k) ∨
    (k ∈ w.pending.seqnums ∧ w.requests k ≠ none)

/-- How many times the worker has the URB. -/
def places (w : InWorker) (k : UInt32) : Nat :=
  (w.queue.filterMap BulkInCommand.submitSeqnum?).count k +
    if (w.requests k).isSome then w.pending.seqnums.count k else 0

/-- The worker stands before a read that there is no buffer for: the barrier's own URB is
    still the next one when the queue has been drained, and its length is not readable. -/
def Overreads (w : InWorker) : Prop :=
  match w.phase with
  | .barrier seqnum len _ =>
      shouldSubmitBulkInAfterBarrier w.drain.pending seqnum = true ∧
        ¬ Readable len w.maxPacketSize
  | _ => False

theorem overreads_iff {seqnum len : UInt32} {flush : Option Oneshot}
    (hp : w.phase = .barrier seqnum len flush) :
    w.Overreads ↔ shouldSubmitBulkInAfterBarrier w.drain.pending seqnum = true ∧
      ¬ Readable len w.maxPacketSize := by
  rw [Overreads, hp]

instance (w : InWorker) : Decidable w.Overreads :=
  match hp : w.phase with
  | .barrier _ _ _ => decidable_of_iff' _ (overreads_iff hp)
  | .opening | .reading | .idle | .stopped => isFalse (by rw [Overreads, hp]; exact id)

/-- The task ends with the move: its endpoint cannot be opened, or it comes through the barrier
    to a read that it panics at. -/
def Ends (w : InWorker) : InMove → Prop
  | .opened none => True
  | .barrierResult (.ok ()) => w.Overreads
  | _ => False

instance (w : InWorker) : ∀ m : InMove, Decidable (w.Ends m)
  | .opened none => isTrue trivial
  | .barrierResult (.ok ()) => inferInstanceAs (Decidable w.Overreads)
  | .opened (some _) | .barrierResult (.error _) | .command | .flushSent _ | .completion _ =>
      isFalse id

theorem places_le_held (w : InWorker) (k : UInt32) : w.places k ≤ w.held.count k := by
  rw [places, held, List.count_append]
  split
  · exact le_rfl
  · exact Nat.le_add_right _ _

theorem Waits.places_pos (h : w.Waits k) : 0 < w.places k := by
  rcases h with ⟨request, hm, hk⟩ | ⟨hp, hr⟩
  · have hmem : k ∈ w.queue.filterMap BulkInCommand.submitSeqnum? :=
      List.mem_filterMap.mpr ⟨_, hm, congrArg some hk⟩
    exact Nat.add_pos_left (List.count_pos_iff.mpr hmem) _
  · rw [places, if_pos (Option.isSome_iff_ne_none.mpr hr)]
    exact Nat.add_pos_right _ (List.count_pos_iff.mpr hp)

theorem Waits.mem_held (h : w.Waits k) : k ∈ w.held :=
  List.count_pos_iff.mp (h.places_pos.trans_le (places_le_held w k))

/-- What is neither queue, pending entry nor request may change freely. -/
theorem Waits.congr (h : w.Waits k) (hq : w'.queue = w.queue) (hp : w'.pending = w.pending)
    (hr : w'.requests = w.requests) : w'.Waits k := by
  rwa [Waits, hq, hp, hr]

/-! ## The parts of the loop -/

theorem mem_dropWhile_of_not {p : UInt32 → Bool} {l : List UInt32} (h : k ∈ l)
    (hp : ¬ p k = true) : k ∈ l.dropWhile p := by
  rw [← List.takeWhile_append_dropWhile (p := p) (l := l)] at h
  rcases List.mem_append.mp h with h | h
  · exact absurd (List.mem_takeWhile_imp h) hp
  · exact h

/-- An entry with a request is not dropped on the way. -/
theorem Waits.settle (h : w.Waits k) : w.settle.Waits k := by
  unfold InWorker.settle
  split
  · exact h
  · rcases h with h | ⟨hp, hr⟩
    · dsimp only
      split <;> exact Or.inl h
    · have hkept := mem_dropWhile_of_not (p := fun seqnum => (w.requests seqnum).isNone) hp
        (by simpa using hr)
      dsimp only
      split
      · rename_i hnil
        rw [hnil] at hkept
        cases hkept
      · rename_i seqnum rest hcons
        rw [hcons] at hkept
        exact Or.inr ⟨hkept, hr⟩

theorem Waits.accept {command : BulkInCommand} {queue : List BulkInCommand}
    (h : Waits { w with queue := command :: queue } k) (hu : command ≠ .unlink k) :
    Waits { w.accept command with queue := queue } k := by
  cases command with
  | submit request =>
    by_cases hk : k = request.header.seqnum
    · subst hk
      refine Or.inr ⟨List.mem_append_right _ List.mem_cons_self, ?_⟩
      simp [InWorker.accept]
    · rcases h with ⟨r, hm, hr⟩ | ⟨hp, hr⟩
      · rcases List.mem_cons.mp hm with heq | hm
        · cases heq
          exact absurd hr.symm hk
        · exact Or.inl ⟨r, hm, hr⟩
      · refine Or.inr ⟨List.mem_append_left _ hp, ?_⟩
        simpa [InWorker.accept, hk] using hr
  | unlink seqnum =>
    have hk : k ≠ seqnum := fun hk => hu (hk ▸ rfl)
    rcases h with ⟨r, hm, hr⟩ | ⟨hp, hr⟩
    · rcases List.mem_cons.mp hm with heq | hm
      · cases heq
      · exact Or.inl ⟨r, hm, hr⟩
    · refine Or.inr ⟨(List.mem_erase_of_ne hk).mpr hp, ?_⟩
      simpa [InWorker.accept, hk] using hr

theorem Waits.acceptAll (queue : List BulkInCommand) (w : InWorker)
    (h : Waits { w with queue := queue } k) (hu : .unlink k ∉ queue) :
    Waits { queue.foldl InWorker.accept w with queue := [] } k := by
  induction queue generalizing w with
  | nil => exact h
  | cons command queue ih =>
    have hne : command ≠ .unlink k := fun he => hu (he ▸ List.mem_cons_self)
    exact ih (w.accept command) (h.accept hne) fun hm => hu (List.mem_cons_of_mem _ hm)

theorem Waits.drain (h : w.Waits k) (hu : .unlink k ∉ w.queue) : w.drain.Waits k :=
  Waits.acceptAll w.queue w h hu

/-- A command that is passed over submits nothing. -/
theorem Waits.skip {seqnum : UInt32} {queue : List BulkInCommand}
    (h : Waits { w with queue := .unlink seqnum :: queue } k) :
    Waits { w with queue := queue } k := by
  rcases h with ⟨r, hm, hr⟩ | h
  · rcases List.mem_cons.mp hm with heq | hm
    · cases heq
    · exact Or.inl ⟨r, hm, hr⟩
  · exact Or.inr h

theorem Waits.receive (h : w.Waits k) (hu : .unlink k ∉ w.queue) (hr : w.receive = some w') :
    w'.Waits k := by
  obtain ⟨command, queue, v, hq, ht, rfl⟩ := receive_takes hr
  rw [hq] at hu
  have hne : command ≠ .unlink k := fun he => hu (he ▸ List.mem_cons_self)
  have hself := with_queue hq
  have haccept : Waits { w.accept command with queue := queue } k :=
    Waits.accept (hself.symm ▸ h) hne
  refine Waits.settle ?_
  cases ht with
  | accepted => exact haccept
  | cancelled seqnum hc hp =>
    subst hc
    exact haccept.congr rfl rfl rfl
  | skipped seqnum hc hp =>
    subst hc
    exact Waits.skip (hself.symm ▸ h)

/-- Another URB is taken off the books. -/
theorem Waits.forget (h : w.Waits k) {seqnum : UInt32} (hk : k ≠ seqnum) :
    (w.forget seqnum).Waits k := by
  rcases h with h | ⟨hp, hr⟩
  · exact Or.inl h
  · refine Or.inr ⟨(List.mem_erase_of_ne hk).mpr hp, ?_⟩
    simpa [InWorker.forget, hk] using hr

/-- The URB at the head fails at the barrier, and is answered. -/
theorem Waits.failBarrier (h : w.Waits k) (hq : w.queue = []) (seqnum : UInt32) :
    (w.failBarrier seqnum).1.Waits k ∨ ∃ event ∈ (w.failBarrier seqnum).2, event.seqnum = k := by
  have hpending : k ∈ w.pending.seqnums ∧ w.requests k ≠ none := by
    rcases h with ⟨r, hm, -⟩ | h
    · rw [hq] at hm
      cases hm
    · exact h
  unfold InWorker.failBarrier
  by_cases hk : k = seqnum
  · subst hk
    obtain ⟨request, hr⟩ := Option.ne_none_iff_exists'.mp hpending.2
    rw [hr]
    exact Or.inr ⟨_, List.mem_cons_self, rfl⟩
  · refine Or.inl ?_
    split
    · exact (h.forget hk).settle
    · have hdrop : Waits { w with pending := w.pending.unlink seqnum } k :=
        Or.inr ⟨(List.mem_erase_of_ne hk).mpr hpending.1, hpending.2⟩
      exact hdrop.settle

theorem Waits.submitRead (h : w.Waits k) {len : UInt32} (hm : Readable len w.maxPacketSize)
    (seqnum : UInt32) : (w.submitRead seqnum len).Waits k := by
  rw [submitRead_of_readable hm]
  exact h.congr rfl rfl rfl

theorem acceptAll_maxPacketSize (queue : List BulkInCommand) (w : InWorker) :
    (queue.foldl accept w).maxPacketSize = w.maxPacketSize := by
  induction queue generalizing w with
  | nil => rfl
  | cons command queue ih =>
    rw [List.foldl_cons, ih]
    cases command <;> rfl

@[simp] theorem drain_maxPacketSize (w : InWorker) :
    w.drain.maxPacketSize = w.maxPacketSize := acceptAll_maxPacketSize w.queue w

theorem Waits.afterBarrier (h : w.Waits k) (hu : .unlink k ∉ w.queue) {seqnum len : UInt32}
    {result : Except String Unit}
    (he : result = .ok () → shouldSubmitBulkInAfterBarrier w.drain.pending seqnum = true →
      Readable len w.maxPacketSize) :
    (w.afterBarrier seqnum len result).1.Waits k ∨
      ∃ event ∈ (w.afterBarrier seqnum len result).2, event.seqnum = k := by
  unfold InWorker.afterBarrier
  dsimp only
  split
  · rename_i hnext
    cases result with
    | error err => exact (h.drain hu).failBarrier rfl seqnum
    | ok u =>
      have hm : Readable len w.drain.maxPacketSize := by
        rw [drain_maxPacketSize]
        exact he rfl hnext
      exact Or.inl ((h.drain hu).submitRead hm seqnum)
  · exact Or.inl (h.drain hu).settle

theorem Waits.complete (h : w.Waits k) (result : Except TransferError (List UInt8)) :
    (w.complete result).1.Waits k ∨ ∃ event ∈ (w.complete result).2, event.seqnum = k := by
  have hend : (w.endRead result).Waits k := h.congr rfl rfl rfl
  unfold InWorker.complete
  cases hs : w.activeSeqnum with
  | none => exact Or.inl hend.settle
  | some seqnum =>
    dsimp only
    by_cases hk : k = seqnum
    · subst hk
      -- A URB that is submitted again while it is read waits in the queue, and goes on waiting.
      rcases h with h | ⟨hp, hr⟩
      · refine Or.inl ?_
        have hqueue : ((w.endRead result).forget k).Waits k := Or.inl h
        split <;> exact hqueue.settle
      · obtain ⟨request, hr⟩ := Option.ne_none_iff_exists'.mp hr
        have hp' : w.pending.contains k = true := decide_eq_true hp
        rw [hp', hr]
        exact Or.inr ⟨_, List.mem_cons_self, rfl⟩
    · refine Or.inl ?_
      split <;> exact (hend.forget hk).settle

/-- **A worker that does not end loses no URB**: it keeps it, or answers it. -/
theorem Waits.step (h : w.Waits k) (hu : .unlink k ∉ w.queue) {move : InMove}
    {events : List BulkInEvent} (hs : w.step move = some (w', events)) (he : ¬ w.Ends move) :
    w'.Waits k ∨ ∃ event ∈ events, event.seqnum = k := by
  cases step_turn hs with
  | opened size hp =>
    have hsize : Waits { w with maxPacketSize := size } k := h.congr rfl rfl rfl
    exact Or.inl hsize.settle
  | unopened hp => exact absurd trivial he
  | received v hv => exact Or.inl (h.receive hu hv)
  | flushing reply seqnum len hp => exact Or.inl (h.congr rfl rfl rfl)
  | passed result seqnum len flush hp =>
    refine h.afterBarrier hu ?_
    rintro rfl hn
    by_contra hm
    exact he ((overreads_iff hp).mpr ⟨hn, hm⟩)
  | completed result hp => exact h.complete result

/-- Where it ends, nothing is left of its URBs. -/
theorem Ends.step {move : InMove} {events : List BulkInEvent} (he : w.Ends move)
    (hs : w.step move = some (w', events)) : (∀ k, w'.places k = 0) ∧ events = [] := by
  have hstop : ∀ v : InWorker, ∀ k, v.stop.places k = 0 := fun _ _ => rfl
  cases step_turn hs with
  | unopened hp => exact ⟨hstop w, rfl⟩
  | passed result seqnum len flush hp =>
    cases result with
    | error err => exact he.elim
    | ok u =>
      obtain ⟨hn, hm⟩ := (overreads_iff hp).mp he
      have hafter : w.afterBarrier seqnum len (.ok ()) = (w.drain.stop, []) := by
        unfold InWorker.afterBarrier
        dsimp only
        rw [if_pos hn, submitRead_of_not_readable (drain_maxPacketSize w ▸ hm)]
      rw [hafter]
      exact ⟨hstop _, rfl⟩
  | _ => exact he.elim

/-! ## Unlinks in the queue -/

theorem settle_queue (w : InWorker) : w.settle.queue = w.queue := by
  unfold settle
  split
  · rfl
  · dsimp only
    split <;> rfl

theorem afterBarrier_queue (w : InWorker) (seqnum len : UInt32) (result : Except String Unit) :
    (w.afterBarrier seqnum len result).1.queue = [] := by
  unfold afterBarrier
  dsimp only
  split
  · cases result with
    | error err =>
      dsimp only [failBarrier]
      split <;> exact settle_queue _
    | ok u =>
      dsimp only [submitRead]
      split <;> rfl
  · exact settle_queue _

theorem complete_queue (w : InWorker) (result : Except TransferError (List UInt8)) :
    (w.complete result).1.queue = w.queue := by
  unfold complete
  cases w.activeSeqnum with
  | none => exact settle_queue _
  | some seqnum =>
    dsimp only
    split <;> exact settle_queue _

/-- The worker only takes commands off its queue. -/
theorem step_queue {move : InMove} {events : List BulkInEvent}
    (hs : w.step move = some (w', events)) : w'.queue ⊆ w.queue := by
  cases step_turn hs with
  | opened size hp =>
    rw [settle_queue]
    exact List.Subset.refl _
  | unopened hp => exact List.nil_subset _
  | received v hv =>
    obtain ⟨command, queue, v, hq, ht, rfl⟩ := receive_takes hv
    have hqueue : v.queue = queue := by cases ht <;> rfl
    rw [settle_queue, hqueue, hq]
    exact List.subset_cons_self _ _
  | flushing reply seqnum len hp => exact List.Subset.refl _
  | passed result seqnum len flush hp =>
    rw [afterBarrier_queue]
    exact List.nil_subset _
  | completed result hp =>
    rw [complete_queue]
    exact List.Subset.refl _

end InWorker

/-! ## The bulk-OUT worker -/

namespace OutWorker

variable {w w' : OutWorker}

theorem held_of_head {command : BulkOutCommand} (hc : w.commands = command :: w'.commands)
    (hn : command.submitSeqnum? = none) : w'.held = w.held := by
  rw [held, held, hc, List.filterMap_cons_none hn]

/-- A worker that goes on has what it had, or has answered it. -/
theorem Runs.held (h : w.Runs) {events : List BulkOutEvent} (ht : Turn w w' events) {k : UInt32}
    (hk : k ∈ w.held) : k ∈ w'.held ∨ ∃ event ∈ events, event.seqnum = k := by
  -- An answered submit leaves the commands and comes back as an event.
  have hanswered : ∀ (request : BulkOutRequest) (result : Except String Unit),
      w.commands = .submit request :: w'.commands →
        k ∈ w'.held ∨ ∃ e ∈ [event request (submitResponse request.data result)], e.seqnum = k := by
    intro request result hc
    rw [OutWorker.held, hc, List.filterMap_cons] at hk
    rcases List.mem_cons.mp hk with hk | hk
    · exact Or.inr ⟨_, List.mem_cons_self, hk.symm⟩
    · exact Or.inl hk
  cases ht with
  | rejected request queue err hp hq hh =>
    refine hanswered request _ ?_
    rw [commands_of_receiving hp, commands_of_receiving (w := { w with queue := queue }) hp, hq]
  | started command queue hp hq hh =>
    refine Or.inl ?_
    rw [OutWorker.held, commands_of_receiving hp, hq] at hk
    exact hk
  | answered sender queue result hp hq hr =>
    have hc : w.commands = .flush sender :: ({ w with queue := queue }.endFlush sender
        result).commands := by
      rw [endFlush_commands, commands_of_receiving hp, hq]
    exact Or.inl (held_of_head hc rfl ▸ hk)
  -- Within a session no command ends the worker.
  | shut sender queue result hp hq hr =>
    refine absurd ?_ (h.commands sender)
    rw [commands_of_receiving hp, hq]
    exact List.mem_cons_self
  | unlinked seqnum queue hp hq =>
    have hc : w.commands = .unlink seqnum :: OutWorker.commands { w with queue := queue } := by
      rw [commands_of_receiving (w := { w with queue := queue }) hp, commands_of_receiving hp, hq]
    exact Or.inl (held_of_head hc rfl ▸ hk)
  | written request result hp =>
    refine hanswered request result ?_
    rw [commands_of_busy hp]
    cases result <;> rfl
  | flushed sender result hp =>
    have hc : w.commands = .flush sender :: ((w.flushed result).endFlush sender
        result).commands := by
      rw [endFlush_commands, flushed_queue, commands_of_busy hp]
    exact Or.inl (held_of_head hc rfl ▸ hk)
  | flushedAndShut sender result hp =>
    refine absurd ?_ (h.commands sender)
    rw [commands_of_busy hp]
    exact List.mem_cons_self
  | idleFlushed result hp => cases result <;> exact Or.inl hk

end OutWorker

/-! ## The books of a session

The two halves of the handler's books are looked at apart, each with what it is about: the
sequence numbers of the session, the workers, and the events of the session by endpoints. -/

structure InBooks (seqnums : List UInt32) (events : UInt8 → List UInt32)
    (ins : UInt8 → Option InWorker) (recorded : UInt32 → Option UInt8) : Prop where
  once : ∀ ep w, ins ep = some w → ∀ k, w.held.count k + (events ep).count k ≤ seqnums.count k
  unlinks : ∀ ep w, ins ep = some w → ∀ k, .unlink k ∈ w.queue → k ∈ seqnums
  kept : ∀ k ep, recorded k = some ep → ∃ w, ins ep = some w ∧ .unlink k ∉ w.queue ∧
    (w.Waits k ∨ k ∈ events ep)

namespace InBooks

variable {seqnums seqnums' : List UInt32} {events events' : UInt8 → List UInt32}
  {ins ins' : UInt8 → Option InWorker} {recorded : UInt32 → Option UInt8} {endpoint : UInt8}
  {w w' : InWorker}

/-- URBs are submitted elsewhere. -/
theorem mono (h : InBooks seqnums events ins recorded) (hs : seqnums.Sublist seqnums') :
    InBooks seqnums' events ins recorded where
  once ep w hw k := (h.once ep w hw k).trans (hs.count_le k)
  unlinks ep w hw k hm := hs.subset (h.unlinks ep w hw k hm)
  kept := h.kept

/-- What is kept is kept behind a command that does not unlink it. -/
theorem kept_push (h : InBooks seqnums events ins recorded) (hw : ins endpoint = some w)
    {command : BulkInCommand} {k : UInt32} {ep : UInt8} (hr : recorded k = some ep)
    (hc : command ≠ .unlink k) :
    ∃ v, Function.update ins endpoint (some (w.push command)) ep = some v ∧
      .unlink k ∉ v.queue ∧ (v.Waits k ∨ k ∈ events ep) := by
  obtain ⟨v, hv, hu, hplace⟩ := h.kept k ep hr
  by_cases hep : ep = endpoint
  · subst hep
    rw [hw, Option.some.injEq] at hv
    subst hv
    refine ⟨_, Function.update_self .., fun hm => ?_, hplace.imp (fun hwaits => ?_) id⟩
    · rcases List.mem_append.mp hm with hm | hm
      · exact hu hm
      · exact hc (List.mem_singleton.mp hm).symm
    · rcases hwaits with ⟨r, hm, hr⟩ | hp
      · exact Or.inl ⟨r, List.mem_append_left _ hm, hr⟩
      · exact Or.inr hp
  · exact ⟨v, by rw [Function.update_of_ne hep, hv], hu, hplace⟩

/-- A new URB goes into the queue of a worker. -/
theorem submit (h : InBooks seqnums events ins recorded) (hw : ins endpoint = some w)
    (request : BulkInRequest) (hnew : request.header.seqnum ∉ seqnums) :
    InBooks (seqnums ++ [request.header.seqnum]) events
      (Function.update ins endpoint (some (w.push (.submit request))))
      (Function.update recorded request.header.seqnum (some endpoint)) where
  once := by
    have hold := h.mono (List.sublist_append_left seqnums [request.header.seqnum])
    refine Connection.forall_update_some (fun ep v _ hv => hold.once ep v hv) fun k => ?_
    rw [Connection.held_push_submit, List.count_append]
    have := h.once endpoint w hw k
    omega
  unlinks := by
    have hold := h.mono (List.sublist_append_left seqnums [request.header.seqnum])
    refine Connection.forall_update_some (fun ep v _ hv => hold.unlinks ep v hv) fun k hm => ?_
    rcases List.mem_append.mp hm with hm | hm
    · exact hold.unlinks endpoint w hw k hm
    · cases List.mem_singleton.mp hm
  kept k ep hk := by
    by_cases hkey : k = request.header.seqnum
    · subst hkey
      rw [Function.update_self, Option.some.injEq] at hk
      subst hk
      refine ⟨_, Function.update_self .., fun hm => ?_, Or.inl (Or.inl ⟨request, ?_, rfl⟩)⟩
      · rcases List.mem_append.mp hm with hm | hm
        · exact hnew (h.unlinks _ w hw _ hm)
        · cases List.mem_singleton.mp hm
      · exact List.mem_append_right _ List.mem_cons_self
    · rw [Function.update_of_ne hkey] at hk
      exact h.kept_push hw hk fun hc => by cases hc

/-- A URB is unlinked. -/
theorem unlink (h : InBooks seqnums events ins recorded) {seqnum : UInt32}
    (hk : seqnum ∈ seqnums) (ht : Connection.ToldIn ins endpoint (.unlink seqnum) ins') :
    InBooks seqnums events ins' (Function.update recorded seqnum none) := by
  have hkept : ∀ k ep, Function.update recorded seqnum none k = some ep →
      k ≠ seqnum ∧ recorded k = some ep := by
    intro k ep hr
    by_cases hkey : k = seqnum
    · subst hkey
      rw [Function.update_self] at hr
      cases hr
    · rw [Function.update_of_ne hkey] at hr
      exact ⟨hkey, hr⟩
  rcases ht with rfl | ⟨w, hw, rfl⟩
  · exact ⟨h.once, h.unlinks, fun k ep hr => h.kept k ep (hkept k ep hr).2⟩
  refine ⟨?_, ?_, fun k ep hr => ?_⟩
  · refine Connection.forall_update_some (fun ep v _ hv => h.once ep v hv) fun k => ?_
    have hheld : (w.push (.unlink seqnum)).held = w.held := by
      simp [InWorker.held, InWorker.push, List.filterMap_append, BulkInCommand.submitSeqnum?]
    rw [hheld]
    exact h.once endpoint w hw k
  · refine Connection.forall_update_some (fun ep v _ hv => h.unlinks ep v hv) fun k hm => ?_
    rcases List.mem_append.mp hm with hm | hm
    · exact h.unlinks endpoint w hw k hm
    · cases List.mem_singleton.mp hm
      exact hk
  · obtain ⟨hkey, hr⟩ := hkept k ep hr
    exact h.kept_push hw hr fun hc => hkey (BulkInCommand.unlink.inj hc).symm

/-- An event is taken off the queue. -/
theorem deliver (h : InBooks seqnums events ins recorded) {seqnum : UInt32}
    (hc : ∀ ep k, (events' ep).count k ≤ (events ep).count k)
    (hm : ∀ ep k, k ≠ seqnum → k ∈ events ep → k ∈ events' ep) :
    InBooks seqnums events' ins (Function.update recorded seqnum none) where
  once ep w hw k := (Nat.add_le_add_left (hc ep k) _).trans (h.once ep w hw k)
  unlinks := h.unlinks
  kept k ep hr := by
    by_cases hkey : k = seqnum
    · subst hkey
      rw [Function.update_self] at hr
      cases hr
    · rw [Function.update_of_ne hkey] at hr
      obtain ⟨w, hw, hu, hplace⟩ := h.kept k ep hr
      exact ⟨w, hw, hu, hplace.imp id (hm ep k hkey)⟩

/-- A worker takes a step that does not end it. -/
theorem move (h : InBooks seqnums events ins recorded) (hw : ins endpoint = some w)
    {m : InMove} {evs : List BulkInEvent} (hs : w.step m = some (w', evs))
    (he : w.Ends m → ∀ k ∈ w.held, recorded k ≠ some endpoint)
    (hev : events' = Function.update events endpoint (events endpoint ++ evs.map (·.seqnum))) :
    InBooks seqnums events' (Function.update ins endpoint (some w')) recorded := by
  subst hev
  have hmoves := InWorker.step_moves hs
  refine ⟨?_, ?_, fun k ep hr => ?_⟩
  · intro ep v hv k
    by_cases hep : ep = endpoint
    · subst hep
      rw [Function.update_self, Option.some.injEq] at hv
      subst hv
      rw [Function.update_self, List.count_append]
      have hold := h.once ep w hw k
      have hheld := hmoves.held k
      omega
    · rw [Function.update_of_ne hep] at hv
      rw [Function.update_of_ne hep]
      exact h.once ep v hv k
  · exact Connection.forall_update_some (fun ep v _ hv => h.unlinks ep v hv)
      fun k hm => h.unlinks endpoint w hw k (InWorker.step_queue hs hm)
  · obtain ⟨v, hv, hu, hplace⟩ := h.kept k ep hr
    by_cases hep : ep = endpoint
    · subst hep
      rw [hw, Option.some.injEq] at hv
      subst hv
      refine ⟨w', Function.update_self .., fun hm => hu (InWorker.step_queue hs hm), ?_⟩
      rw [Function.update_self]
      rcases hplace with hwaits | hevent
      · have hends : ¬ w.Ends m := fun hends => he hends k hwaits.mem_held hr
        rcases hwaits.step hu hs hends with hwaits | ⟨event, hm, hk⟩
        · exact Or.inl hwaits
        · exact Or.inr (List.mem_append_right _ (List.mem_map.mpr ⟨event, hm, hk⟩))
      · exact Or.inr (List.mem_append_left _ hevent)
    · refine ⟨v, by rw [Function.update_of_ne hep, hv], hu, ?_⟩
      rwa [Function.update_of_ne hep]

end InBooks

structure OutBooks (seqnums : List UInt32) (events : UInt8 → List UInt32)
    (outs : UInt8 → Option OutWorker) (pending : Finset UInt32)
    (recorded : UInt32 → Option UInt8) : Prop where
  once : ∀ ep w, outs ep = some w → ∀ k, w.held.count k + (events ep).count k ≤ seqnums.count k
  kept : ∀ k ∈ pending, ∃ ep w, recorded k = some ep ∧ outs ep = some w ∧
    (k ∈ w.held ∨ k ∈ events ep)

namespace OutBooks

variable {seqnums seqnums' : List UInt32} {events events' : UInt8 → List UInt32}
  {outs outs' : UInt8 → Option OutWorker} {pending : Finset UInt32}
  {recorded : UInt32 → Option UInt8} {endpoint : UInt8} {w w' : OutWorker}

theorem mono (h : OutBooks seqnums events outs pending recorded)
    (hs : seqnums.Sublist seqnums') : OutBooks seqnums' events outs pending recorded where
  once ep w hw k := (h.once ep w hw k).trans (hs.count_le k)
  kept := h.kept

theorem submit (h : OutBooks seqnums events outs pending recorded) (hw : outs endpoint = some w)
    (request : BulkOutRequest) :
    OutBooks (seqnums ++ [request.header.seqnum]) events
      (Function.update outs endpoint (some (w.push (.submit request))))
      (insert request.header.seqnum pending)
      (Function.update recorded request.header.seqnum (some endpoint)) where
  once := by
    have hold := h.mono (List.sublist_append_left seqnums [request.header.seqnum])
    refine Connection.forall_update_some (fun ep v _ hv => hold.once ep v hv) fun k => ?_
    have hheld : (w.push (.submit request)).held.count k =
        w.held.count k + [request.header.seqnum].count k := by
      rw [OutWorker.held_push, List.count_append]
      rfl
    rw [hheld, List.count_append]
    have := h.once endpoint w hw k
    omega
  kept k hk := by
    by_cases hkey : k = request.header.seqnum
    · subst hkey
      refine ⟨endpoint, _, Function.update_self .., Function.update_self .., Or.inl ?_⟩
      rw [OutWorker.held_push]
      exact List.mem_append_right _ List.mem_cons_self
    · obtain ⟨ep, v, hr, hv, hplace⟩ := h.kept k (Finset.mem_of_mem_insert_of_ne hk hkey)
      have hr' : Function.update recorded request.header.seqnum (some endpoint) k = some ep := by
        rw [Function.update_of_ne hkey, hr]
      by_cases hep : ep = endpoint
      · subst hep
        rw [hw, Option.some.injEq] at hv
        subst hv
        refine ⟨ep, _, hr', Function.update_self .., hplace.imp (fun hm => ?_) id⟩
        rw [OutWorker.held_push]
        exact List.mem_append_left _ hm
      · exact ⟨ep, v, hr', by rw [Function.update_of_ne hep, hv], hplace⟩

/-- A worker is told a command that submits nothing. -/
theorem told (h : OutBooks seqnums events outs pending recorded) {command : BulkOutCommand}
    (ht : Connection.ToldOut outs endpoint command outs')
    (hc : command.submitSeqnum? = none) :
    OutBooks seqnums events outs' pending recorded := by
  rcases ht with rfl | ⟨w, hw, rfl⟩
  · exact h
  have hheld : (w.push command).held = w.held := by
    rw [OutWorker.held_push, hc, Option.toList_none, List.append_nil]
  refine ⟨?_, fun k hk => ?_⟩
  · refine Connection.forall_update_some (fun ep v _ hv => h.once ep v hv) fun k => ?_
    rw [hheld]
    exact h.once endpoint w hw k
  · obtain ⟨ep, v, hr, hv, hplace⟩ := h.kept k hk
    by_cases hep : ep = endpoint
    · subst hep
      rw [hw, Option.some.injEq] at hv
      subst hv
      exact ⟨ep, _, hr, Function.update_self .., hheld.symm ▸ hplace⟩
    · exact ⟨ep, v, hr, by rw [Function.update_of_ne hep, hv], hplace⟩

/-- A URB is taken off the books, by an unlink or with its event. -/
theorem forget (h : OutBooks seqnums events outs pending recorded) (seqnum : UInt32)
    (hc : ∀ ep k, (events' ep).count k ≤ (events ep).count k)
    (hm : ∀ ep k, k ≠ seqnum → k ∈ events ep → k ∈ events' ep) :
    OutBooks seqnums events' outs (pending.erase seqnum)
      (Function.update recorded seqnum none) where
  once ep w hw k := (Nat.add_le_add_left (hc ep k) _).trans (h.once ep w hw k)
  kept k hk := by
    obtain ⟨hkey, hk⟩ := Finset.mem_erase.mp hk
    obtain ⟨ep, w, hr, hw, hplace⟩ := h.kept k hk
    exact ⟨ep, w, by rw [Function.update_of_ne hkey, hr], hw, hplace.imp id (hm ep k hkey)⟩

/-- A worker that goes on takes a step. -/
theorem move (h : OutBooks seqnums events outs pending recorded) (hw : outs endpoint = some w)
    (hrun : w.Runs) {evs : List BulkOutEvent} (ht : OutWorker.Turn w w' evs)
    (hev : events' = Function.update events endpoint (events endpoint ++ evs.map (·.seqnum))) :
    OutBooks seqnums events' (Function.update outs endpoint (some w')) pending recorded := by
  subst hev
  refine ⟨?_, fun k hk => ?_⟩
  · intro ep v hv k
    by_cases hep : ep = endpoint
    · subst hep
      rw [Function.update_self, Option.some.injEq] at hv
      subst hv
      rw [Function.update_self, List.count_append]
      have hold := h.once ep w hw k
      have hheld := ht.moves.held k
      omega
    · rw [Function.update_of_ne hep] at hv
      rw [Function.update_of_ne hep]
      exact h.once ep v hv k
  · obtain ⟨ep, v, hr, hv, hplace⟩ := h.kept k hk
    by_cases hep : ep = endpoint
    · subst hep
      rw [hw, Option.some.injEq] at hv
      subst hv
      refine ⟨ep, w', hr, Function.update_self .., ?_⟩
      rw [Function.update_self]
      rcases hplace with hheld | hevent
      · rcases hrun.held ht hheld with hheld | ⟨event, hm, hk⟩
        · exact Or.inl hheld
        · exact Or.inr (List.mem_append_right _ (List.mem_map.mpr ⟨event, hm, hk⟩))
      · exact Or.inr (List.mem_append_left _ hevent)
    · refine ⟨ep, v, hr, by rw [Function.update_of_ne hep, hv], ?_⟩
      rwa [Function.update_of_ne hep]

end OutBooks

end Lusbip
