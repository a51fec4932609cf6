import Lusbip.Lib.Progress
import Lusbip.Session.BulkInWords

/-!
# Workers that can answer

A bulk worker that has been given a URB owes an answer. `Serves` says that no move of a bulk-IN
worker forgets one, as long as the worker does not end: what is mentioned last under a sequence
number is a request, and it stays that until an event answers it. `CanAnswer` says that the
event can come. The worker gets there by moves of its own, if its endpoint opens, its barriers
pass and its reads complete, and whatever it has done so far it is never in a state in which
that would not do any more.

A bulk-OUT worker takes one command after the other, so the same holds of it with less ado.
-/

namespace Lusbip

open Lib.Transition Lib.Withdrawals

/-! ## Bulk-IN workers -/

/-- A barrier that is answered is answered well. -/
def InMove.Passing : InMove → Prop
  | .barrierResult (.error _) => False
  | _ => True

namespace InWorker

variable {w w' v : InWorker} {k seqnum : UInt32} {urb : Urb} {request : BulkInRequest}
  {events : List BulkInEvent} {move : InMove}

/-- A request on file is pending. -/
def OnFile (w : InWorker) : Prop := ∀ k, w.requests k ≠ none → k ∈ w.pending.seqnums

/-- The URB is the last thing that the worker has been told under the sequence number. -/
def Owes (w : InWorker) (k : UInt32) (urb : Urb) : Prop := Open (w.word k) urb

/-- An event answers the URB under its sequence number. -/
def Answering (k : UInt32) (urb : Urb) (events : List BulkInEvent) : Prop :=
  ∃ event ∈ events, event.seqnum = k ∧ event.urb = urb

/-- What the worker owes it still owes, or has answered. -/
structure Serves (w w' : InWorker) (events : List BulkInEvent) : Prop where
  onFile : w.OnFile → w'.OnFile
  owes : w.OnFile → ∀ k urb, w.Owes k urb → w'.Owes k urb ∨ Answering k urb events

theorem serves_of_word (hf : w.OnFile → w'.OnFile)
    (hw : w.OnFile → ∀ k, w'.word k = w.word k) : Serves w w' [] where
  onFile := hf
  owes h k urb ho := by
    rw [Owes, hw h k]
    exact Or.inl ho

/-- What is neither queue, pending entry nor request may change freely. -/
theorem serves_congr (hq : w'.queue = w.queue) (hp : w'.pending = w.pending)
    (hr : w'.requests = w.requests) : Serves w w' [] := by
  refine serves_of_word (fun h => ?_) fun _ k => word_congr hr hq k
  rw [OnFile, hp, hr]
  exact h

theorem Serves.trans (h : Serves w v []) (h' : Serves v w' events) : Serves w w' events where
  onFile hf := h'.onFile (h.onFile hf)
  owes hf k urb ho := by
    rcases h.owes hf k urb ho with ho | ⟨event, hm, -⟩
    · exact h'.owes (h.onFile hf) k urb ho
    · cases hm

/-! ### The parts of the loop -/

@[simp] theorem settle_requests (w : InWorker) : w.settle.requests = w.requests := by
  unfold settle
  split
  · rfl
  · dsimp only
    split <;> rfl

/-- An entry with a request is not dropped on the way. -/
theorem settle_serves (w : InWorker) : Serves w w.settle [] := by
  refine serves_of_word (fun h k hk => ?_)
    fun _ k => word_congr (settle_requests w) (settle_queue w) k
  rw [settle_requests] at hk
  have hkept := mem_dropWhile_of_not (p := fun seqnum => (w.requests seqnum).isNone) (h k hk)
    (by simpa using hk)
  unfold settle
  split
  · exact h k hk
  · dsimp only
    split
    · rename_i hnil
      rw [hnil] at hkept
      cases hkept
    · rename_i seqnum rest hcons
      rw [hcons] at hkept
      exact hkept

/-- After a move that ends with `settle`. -/
theorem Serves.settle (h : Serves w w' events) : Serves w w'.settle events where
  onFile hf := (settle_serves w').onFile (h.onFile hf)
  owes hf k urb ho := by
    rcases h.owes hf k urb ho with ho | hanswer
    · rcases (settle_serves w').owes (h.onFile hf) k urb ho with ho | ⟨event, hm, -⟩
      · exact Or.inl ho
      · cases hm
    · exact Or.inr hanswer

/-- What stands under the number of a command at the head of the queue. -/
theorem Owes.behind {command : BulkInCommand} {queue : List BulkInCommand}
    (h : Owes { w with queue := command :: queue } k urb) :
    Open (command.mark k ++ queue.flatMap (·.mark k)) urb ∨
      command.mark k = [] ∧ queue.flatMap (·.mark k) = [] ∧ Owes { w with queue := [] } k urb := by
  by_cases hne : command.mark k ++ queue.flatMap (·.mark k) = []
  · obtain ⟨hmark, hqueue⟩ := List.append_eq_nil_iff.mp hne
    refine Or.inr ⟨hmark, hqueue, ?_⟩
    simpa [Owes, word, hmark, hqueue] using h
  · have hopen : Open (((w.requests k).map fun r => some r.urb).toList ++
        (command.mark k ++ queue.flatMap (·.mark k))) urb := by
      simpa [Owes, word] using h
    exact Or.inl (hopen.of_append hne)

/-- An unlink is not the last thing said under its number. -/
theorem open_unlink {queue : List BulkInCommand}
    (h : Open ((BulkInCommand.unlink seqnum).mark k ++ queue.flatMap (·.mark k)) urb) :
    Open (queue.flatMap (·.mark k)) urb := by
  dsimp only [BulkInCommand.mark] at h
  split at h
  · rcases open_cons h with ⟨hnone, -⟩ | h
    · cases hnone
    · exact h
  · exact h

/-- A command is taken off the queue. -/
theorem accept_serves (w : InWorker) (command : BulkInCommand) (queue : List BulkInCommand) :
    Serves { w with queue := command :: queue } { w.accept command with queue := queue } [] := by
  cases command with
  | submit request =>
    refine ⟨fun h k hk => ?_, fun h k urb ho => Or.inl ?_⟩
    · by_cases hk' : k = request.header.seqnum
      · rw [hk']
        exact List.mem_append_right _ List.mem_cons_self
      · refine List.mem_append_left _ (h k ?_)
        simpa [accept, hk'] using hk
    · by_cases hk : k = request.header.seqnum
      · -- The request is on file now, in front of what it was in front of.
        subst hk
        have hmark : (BulkInCommand.submit request).mark request.header.seqnum =
            [some request.urb] := if_pos rfl
        rcases ho.behind with ho | ⟨hnil, -, -⟩
        · rw [hmark] at ho
          simpa [Owes, word, accept] using ho
        · cases hmark.symm.trans hnil
      · have hmark : (BulkInCommand.submit request).mark k = [] := if_neg (Ne.symm hk)
        simpa [Owes, word, accept, hk, hmark] using ho
  | unlink seqnum =>
    refine ⟨fun h k hk => ?_, fun h k urb ho => Or.inl ?_⟩
    · by_cases hk' : k = seqnum
      · subst hk'
        simp [accept] at hk
      · refine (List.mem_erase_of_ne hk').mpr (h k ?_)
        simpa [accept, hk'] using hk
    · rcases ho.behind with ho | ⟨hnil, hqueue, ho⟩
      · exact (open_unlink ho).front _
      · have hk : k ≠ seqnum := by
          rintro rfl
          simp [BulkInCommand.mark] at hnil
        simpa [Owes, word, accept, hk, hqueue] using ho

/-- An unlink is passed over. -/
theorem skip_serves (w : InWorker) (seqnum : UInt32) (queue : List BulkInCommand) :
    Serves { w with queue := .unlink seqnum :: queue } { w with queue := queue } [] where
  onFile h := h
  owes h k urb ho := by
    rcases ho.behind with ho | ⟨-, hqueue, ho⟩
    · exact Or.inl ((open_unlink ho).front _)
    · refine Or.inl ?_
      simpa [Owes, word, hqueue] using ho

theorem acceptAll_serves (queue : List BulkInCommand) (w : InWorker) :
    Serves { w with queue := queue } { queue.foldl accept w with queue := [] } [] := by
  induction queue generalizing w with
  | nil => exact serves_congr rfl rfl rfl
  | cons command queue ih => exact (accept_serves w command queue).trans (ih (w.accept command))

theorem drain_serves (w : InWorker) : Serves w w.drain [] := acceptAll_serves w.queue w

theorem receive_serves (h : w.receive = some w') : Serves w w' [] := by
  obtain ⟨command, queue, v, hq, ht, rfl⟩ := receive_takes h
  have hself := with_queue hq
  have haccept := hself ▸ accept_serves w command queue
  refine Serves.settle ?_
  cases ht with
  | accepted => exact haccept
  | cancelled seqnum hc hp =>
    subst hc
    exact haccept.trans (serves_congr rfl rfl rfl)
  | skipped seqnum hc hp =>
    subst hc
    exact hself ▸ skip_serves w seqnum queue

/-- The request on file under the number is answered. -/
theorem forget_serves {response : UsbIpHeaderBasic → UsbIpResponse}
    (hr : w.requests seqnum = some request) :
    Serves w (w.forget seqnum) [w.answer seqnum request response] where
  onFile h k hk := by
    by_cases hk' : k = seqnum
    · subst hk'
      simp [forget] at hk
    · exact (List.mem_erase_of_ne hk').mpr (h k (by simpa [forget, hk'] using hk))
  owes h k urb ho := by
    by_cases hk : k = seqnum
    · subst hk
      rw [Owes, word, hr] at ho
      rcases open_cons ho with ⟨hurb, -⟩ | ho
      · exact Or.inr ⟨_, List.mem_cons_self, rfl, Option.some.inj hurb⟩
      · refine Or.inl ?_
        rw [Owes, word_forget, if_pos rfl]
        exact ho
    · refine Or.inl ?_
      rw [Owes, word_forget, if_neg hk]
      exact ho

/-- Nothing is on file under the number that is taken off the books. -/
theorem forget_serves_of_none (hr : w.requests seqnum = none) : Serves w (w.forget seqnum) [] := by
  have hsame : (w.forget seqnum).requests = w.requests := Function.update_eq_self_iff.mpr hr.symm
  refine serves_of_word (fun h k hk => ?_) fun _ k => word_congr hsame rfl k
  rw [hsame] at hk
  have hne : k ≠ seqnum := by
    rintro rfl
    exact hk hr
  exact (List.mem_erase_of_ne hne).mpr (h k hk)

theorem failBarrier_serves (w : InWorker) (seqnum : UInt32) :
    Serves w (w.failBarrier seqnum).1 (w.failBarrier seqnum).2 := by
  unfold failBarrier
  cases hr : w.requests seqnum with
  | some request => exact (forget_serves hr).settle
  | none =>
    have hdrop : Serves w { w with pending := w.pending.unlink seqnum } [] :=
      ((forget_serves_of_none hr).trans
        (serves_congr rfl rfl (Function.update_eq_self_iff.mpr hr.symm).symm))
    exact hdrop.settle

theorem submitRead_serves {len : UInt32} (hp : (w.submitRead seqnum len).phase ≠ .stopped) :
    Serves w (w.submitRead seqnum len) [] := by
  unfold submitRead at hp ⊢
  split
  · rename_i err hlen
    rw [hlen] at hp
    exact absurd rfl hp
  · exact serves_congr rfl rfl rfl

theorem afterBarrier_serves {len : UInt32} {result : Except String Unit}
    (hp : (w.afterBarrier seqnum len result).1.phase ≠ .stopped) :
    Serves w (w.afterBarrier seqnum len result).1 (w.afterBarrier seqnum len result).2 := by
  unfold afterBarrier at hp ⊢
  dsimp only at hp ⊢
  split at hp
  · rename_i hnext
    rw [if_pos hnext]
    cases result with
    | error err => exact (drain_serves w).trans (failBarrier_serves _ seqnum)
    | ok u => exact (drain_serves w).trans (submitRead_serves hp)
  · rename_i hnext
    rw [if_neg hnext]
    exact (drain_serves w).settle

theorem complete_serves (h : w.OnFile) (result : Except TransferError (List UInt8)) :
    Serves w (w.complete result).1 (w.complete result).2 := by
  have hend : Serves w (w.endRead result) [] := serves_congr rfl rfl rfl
  unfold complete
  cases w.activeSeqnum with
  | none => exact hend.settle
  | some seqnum =>
    dsimp only
    split
    · rename_i request hp hr
      exact (hend.trans (forget_serves (w := w.endRead result) hr)).settle
    · rename_i hnone
      -- What is not pending has no request on file.
      refine (hend.trans (forget_serves_of_none ?_)).settle
      by_contra hr
      obtain ⟨request, hr'⟩ := Option.ne_none_iff_exists'.mp hr
      exact hnone request (decide_eq_true (h seqnum hr)) hr'

/-- **A worker that does not end forgets nothing that it owes.** -/
theorem step_serves (h : w.OnFile) (hs : w.step move = some (w', events))
    (hp : w'.phase ≠ .stopped) : Serves w w' events := by
  cases step_turn hs with
  | opened size hopening =>
    have hsize : Serves w { w with maxPacketSize := size } [] := serves_congr rfl rfl rfl
    exact hsize.settle
  | unopened hopening => exact absurd rfl hp
  | received v hv => exact receive_serves hv
  | flushing reply seqnum len hphase => exact serves_congr rfl rfl rfl
  | passed result seqnum len flush hphase => exact afterBarrier_serves hp
  | completed result hphase => exact complete_serves h result

/-! ### A worker that goes on -/

/-- The worker has its endpoint open, at the packet size it had, and goes on where it may. -/
structure GoesOn (may : Prop) (w w' : InWorker) : Prop where
  opened : w'.phase ≠ .opening
  running : may → w'.phase ≠ .stopped
  maxPacketSize : w'.maxPacketSize = w.maxPacketSize

/-- Whatever came before it, the worker goes on at the head of its loop. -/
theorem settle_goesOn {may : Prop} (hm : v.maxPacketSize = w.maxPacketSize) :
    GoesOn may w v.settle := by
  unfold settle
  split
  · exact ⟨fun h => (nomatch h), fun _ h => (nomatch h), hm⟩
  · dsimp only
    split
    · exact ⟨fun h => (nomatch h), fun _ h => (nomatch h), hm⟩
    · exact ⟨fun h => (nomatch h), fun _ h => (nomatch h), hm⟩

/-- A length that there is no buffer for ends the task. -/
theorem submitRead_goesOn (w : InWorker) (seqnum len : UInt32) :
    GoesOn (Readable len w.maxPacketSize) w (w.submitRead seqnum len) := by
  by_cases hlen : Readable len w.maxPacketSize
  · rw [submitRead_of_readable hlen]
    exact ⟨fun h => (nomatch h), fun _ h => (nomatch h), rfl⟩
  · rw [submitRead_of_not_readable hlen]
    exact ⟨fun h => (nomatch h), fun h => absurd h hlen, rfl⟩

theorem afterBarrier_goesOn {len : UInt32} {flush : Option Oneshot}
    (hp : w.phase = .barrier seqnum len flush) (result : Except String Unit) :
    GoesOn (¬ w.Ends (.barrierResult result)) w (w.afterBarrier seqnum len result).1 := by
  unfold afterBarrier
  dsimp only
  split
  · rename_i hnext
    cases result with
    | error err =>
      dsimp only [failBarrier]
      split <;> exact settle_goesOn (drain_maxPacketSize w)
    | ok u =>
      obtain ⟨hopened, hrunning, hsize⟩ := submitRead_goesOn w.drain seqnum len
      rw [drain_maxPacketSize] at hrunning hsize
      refine ⟨hopened, fun hgoes => hrunning ?_, hsize⟩
      by_contra hlen
      exact hgoes ((overreads_iff hp).mpr ⟨hnext, hlen⟩)
  · exact settle_goesOn (drain_maxPacketSize w)

theorem complete_goesOn {may : Prop} (w : InWorker) (result : Except TransferError (List UInt8)) :
    GoesOn may w (w.complete result).1 := by
  unfold complete
  cases w.activeSeqnum with
  | none => exact settle_goesOn (v := w.endRead result) rfl
  | some seqnum =>
    dsimp only
    split
    · exact settle_goesOn (v := (w.endRead result).forget seqnum) rfl
    · exact settle_goesOn (v := (w.endRead result).forget seqnum) rfl

/-- **An open worker goes on**, unless its barrier passes and it has no buffer for the read. -/
theorem step_goesOn (hs : w.step move = some (w', events)) (hp : w.phase ≠ .opening) :
    GoesOn (¬ w.Ends move) w w' := by
  cases step_turn hs with
  | opened size hopening => exact absurd hopening hp
  | unopened hopening => exact absurd hopening hp
  | received v hv =>
    obtain ⟨command, queue, u, hq, ht, rfl⟩ := receive_takes hv
    cases ht with
    | accepted => cases command <;> exact settle_goesOn rfl
    | cancelled seqnum hc hp => exact settle_goesOn rfl
    | skipped seqnum hc hp => exact settle_goesOn rfl
  | flushing reply seqnum len hphase =>
    exact ⟨fun h => (nomatch h), fun _ h => (nomatch h), rfl⟩
  | passed result seqnum len flush hphase => exact afterBarrier_goesOn hphase result
  | completed result hphase => exact complete_goesOn w result

/-! ### Between two moves -/

/-- At its `await` the worker is at the barrier of the request at the head, or reads, or has
    nothing to do. Before its endpoint is open it has nothing on file. -/
structure Fit (w : InWorker) : Prop where
  onFile : w.OnFile
  opening : w.phase = .opening → ∀ k, w.requests k = none
  head : ∀ seqnum len flush, w.phase = .barrier seqnum len flush → w.pending.next = some seqnum
  request : ∀ seqnum len flush, w.phase = .barrier seqnum len flush →
    ∃ request, w.requests seqnum = some request ∧ request.transferBufferLength = len
  idle : w.phase = .idle → w.pending.seqnums = []

theorem fit_start (address : UInt8) (outWorker : Option UInt8) :
    Fit { address := address, outWorker := outWorker } where
  onFile _ h := absurd rfl h
  opening _ _ := rfl
  head _ _ _ h := nomatch h
  request _ _ _ h := nomatch h
  idle h := nomatch h

theorem Fit.push (h : w.Fit) (command : BulkInCommand) : (w.push command).Fit :=
  ⟨h.onFile, h.opening, h.head, h.request, h.idle⟩

/-- A worker at the barrier has the request at the head on file. -/
theorem settle_request {len : UInt32} {flush : Option Oneshot}
    (hp : w.settle.phase = .barrier seqnum len flush) :
    ∃ request, w.settle.requests seqnum = some request ∧ request.transferBufferLength = len := by
  rw [settle_requests]
  unfold settle at hp
  split at hp
  · cases hp
  · dsimp only at hp
    split at hp
    · cases hp
    · rename_i head rest hcons
      cases hp
      have hhead := List.head?_dropWhile_not (fun seqnum => (w.requests seqnum).isNone)
        w.pending.seqnums
      rw [hcons] at hhead
      obtain ⟨request, hr⟩ := Option.isSome_iff_exists.mp (by simpa using hhead)
      exact ⟨request, hr, by rw [hr]; rfl⟩

/-- The head of the loop brings the worker to one of these. -/
theorem settle_fit (h : w.settle.OnFile) : w.settle.Fit where
  onFile := h
  opening hp := by
    have hon : GoesOn True w w.settle := settle_goesOn rfl
    exact absurd hp hon.opened
  head seqnum len flush hp := by
    unfold settle at hp ⊢
    split at hp
    · cases hp
    · rename_i hread
      rw [if_neg hread]
      dsimp only at hp ⊢
      split at hp
      · cases hp
      · cases hp
        rfl
  request seqnum len flush := settle_request
  idle hp := by
    unfold settle at hp ⊢
    split at hp
    · cases hp
    · rename_i hread
      rw [if_neg hread]
      dsimp only at hp ⊢
      split at hp
      · rfl
      · cases hp

theorem afterBarrier_eq (w : InWorker) (seqnum len : UInt32) (result : Except String Unit) :
    (w.afterBarrier seqnum len result).1 = w.drain.submitRead seqnum len ∨
      ∃ v : InWorker, (w.afterBarrier seqnum len result).1 = v.settle := by
  unfold afterBarrier
  dsimp only
  split
  · cases result with
    | error err =>
      dsimp only [failBarrier]
      split
      · exact Or.inr ⟨_, rfl⟩
      · exact Or.inr ⟨_, rfl⟩
    | ok u => exact Or.inl rfl
  · exact Or.inr ⟨_, rfl⟩

theorem complete_eq_settle (w : InWorker) (result : Except TransferError (List UInt8)) :
    ∃ v : InWorker, (w.complete result).1 = v.settle := by
  unfold complete
  cases w.activeSeqnum with
  | none => exact ⟨w.endRead result, rfl⟩
  | some seqnum =>
    refine ⟨(w.endRead result).forget seqnum, ?_⟩
    dsimp only
    split <;> rfl

/-- **A step leads from one `await` to the next.** -/
theorem Fit.step (h : w.Fit) (hs : w.step move = some (w', events)) (hp : w'.phase ≠ .stopped) :
    w'.Fit := by
  have honFile := (step_serves h.onFile hs hp).onFile h.onFile
  cases step_turn hs with
  | opened size hopening => exact settle_fit honFile
  | unopened hopening => exact absurd rfl hp
  | received v hv =>
    obtain ⟨command, queue, u, -, -, rfl⟩ := receive_takes hv
    exact settle_fit honFile
  | flushing reply seqnum len hphase =>
    refine ⟨honFile, fun hp' => (nomatch hp'), fun _ _ _ hp' => ?_, fun _ _ _ hp' => ?_,
      fun hp' => (nomatch hp')⟩
    · cases hp'
      exact h.head seqnum len none hphase
    · cases hp'
      exact h.request seqnum len none hphase
  | passed result seqnum len flush hphase =>
    rcases afterBarrier_eq w seqnum len result with heq | ⟨v, heq⟩
    · rw [heq] at honFile hp ⊢
      unfold submitRead at honFile hp ⊢
      split
      · rename_i err hlen
        rw [hlen] at hp
        exact absurd rfl hp
      · rename_i n hlen
        rw [hlen] at honFile
        exact ⟨honFile, fun h => (nomatch h), fun _ _ _ h => (nomatch h),
          fun _ _ _ h => (nomatch h), fun h => (nomatch h)⟩
    · rw [heq] at honFile ⊢
      exact settle_fit honFile
  | completed result hphase =>
    obtain ⟨v, heq⟩ := complete_eq_settle w result
    rw [heq] at honFile ⊢
    exact settle_fit honFile

/-! ### How far off the answer is -/

/-- Commands and pending requests that the worker has to go through. -/
def burden (w : InWorker) : Nat := 2 * w.queue.length + w.pending.seqnums.length

/-- How far the worker is from the end of a read that takes a request off its books. -/
def rank (w : InWorker) : Nat :=
  match w.phase with
  | .opening => 7
  | .barrier _ _ _ => 5
  | .reading => if w.activeSeqnum.any w.pending.contains then 2 else 6
  | .idle | .stopped => 0

def variant (w : InWorker) : Nat := 8 * w.burden + w.rank

theorem settle_burden_le (w : InWorker) : w.settle.burden ≤ w.burden := by
  unfold settle
  split
  · exact le_rfl
  · have hle := (List.dropWhile_sublist (fun seqnum => (w.requests seqnum).isNone)
      (l := w.pending.seqnums)).length_le
    dsimp only
    split
    · exact Nat.le_add_right _ _
    · rename_i seqnum rest hcons
      rw [hcons] at hle
      exact Nat.add_le_add_left hle _

theorem settle_rank_le (w : InWorker) :
    w.settle.rank ≤ if w.readPending then 6 else 5 := by
  unfold settle
  split
  · simp only [rank]
    split <;> omega
  · dsimp only
    split
    · exact Nat.zero_le _
    · exact le_rfl

theorem accept_burden (w : InWorker) (command : BulkInCommand) (queue : List BulkInCommand) :
    burden { w.accept command with queue := queue } <
      burden { w with queue := command :: queue } := by
  cases command with
  | submit request =>
    simp only [burden, accept, PendingBulkIn.push, List.length_append, List.length_cons,
      List.length_nil]
    omega
  | unlink seqnum =>
    have hle := List.erase_sublist (a := seqnum) (l := w.pending.seqnums) |>.length_le
    simp only [burden, accept, PendingBulkIn.unlink, List.length_cons]
    omega

theorem acceptAll_burden (queue : List BulkInCommand) (w : InWorker) :
    burden { queue.foldl accept w with queue := [] } + queue.length ≤
      burden { w with queue := queue } := by
  induction queue generalizing w with
  | nil => exact le_rfl
  | cons command queue ih =>
    have hhead := accept_burden w command queue
    have hrest := ih (w.accept command)
    simp only [burden, List.foldl_cons, List.length_cons, List.length_nil] at hhead hrest ⊢
    omega

/-- Every command that is drained makes the burden lighter. -/
theorem drain_burden (w : InWorker) : w.drain.burden + w.queue.length ≤ w.burden :=
  acceptAll_burden w.queue w

theorem forget_burden_le (w : InWorker) (seqnum : UInt32) : (w.forget seqnum).burden ≤ w.burden :=
  Nat.add_le_add_left List.erase_sublist.length_le _

theorem forget_burden_lt (hm : seqnum ∈ w.pending.seqnums) :
    (w.forget seqnum).burden < w.burden := by
  have hlen := List.length_erase_of_mem hm
  have hpos := List.length_pos_of_mem hm
  simp only [burden, forget, PendingBulkIn.unlink]
  omega

/-! ### The way to the answer -/

/-- The worker comes to answer the URB, if its barriers pass. -/
def CanAnswer (w : InWorker) (k : UInt32) (urb : Urb) : Prop :=
  CanReach (fun (s : InWorker × List BulkInEvent) move => s.1.step move) (fun _ => InMove.Passing)
    (fun s => Answering k urb s.2) (w, [])

/-- The worker has not ended, and when its endpoint is open it has a buffer for every read that
    it has been asked for. -/
structure Able (w : InWorker) : Prop where
  running : w.phase ≠ .stopped
  readable : w.phase = .opening ∨
    ∀ request, w.Holds request → Readable request.transferBufferLength w.maxPacketSize

/-- An able worker does not come to a read that it would panic at. -/
theorem Able.not_ends (h : w.Able) (hf : w.Fit) (hp : w.phase ≠ .opening) :
    ¬ w.Ends (.barrierResult (.ok ())) := by
  intro hends
  cases hphase : w.phase with
  | barrier seqnum len flush =>
    obtain ⟨-, hlen⟩ := (overreads_iff hphase).mp hends
    obtain ⟨request, hr, rfl⟩ := hf.request seqnum len flush hphase
    exact hlen (h.readable.resolve_left hp request (Or.inr ⟨seqnum, hr⟩))
  | opening => exact hp hphase
  | _ =>
    rw [Ends, Overreads, hphase] at hends
    exact hends

/-- After any step an open worker is as able as before. -/
theorem Able.step (h : w.Able) (hf : w.Fit) (hp : w.phase ≠ .opening)
    (hs : w.step move = some (w', events)) : w'.Able := by
  have hon := step_goesOn hs hp
  have hgoes : ¬ w.Ends move := by
    cases move with
    | barrierResult result =>
      cases result with
      | ok u => exact h.not_ends hf hp
      | error err => exact id
    | opened size =>
      cases step_turn hs with
      | opened size hopening => exact absurd hopening hp
      | unopened hopening => exact absurd hopening hp
    | _ => exact id
  refine ⟨hon.running hgoes, Or.inr fun request hr => ?_⟩
  rw [hon.maxPacketSize]
  exact h.readable.resolve_left hp request ((step_moves hs).holds request hr)

/-- A packet size of a single byte suits every length. -/
theorem readable_one (len : UInt32) : Readable len 1 := by
  refine ⟨Nat.one_ne_zero, ?_⟩
  have hlt := len.toNat_lt
  simp only [wholePackets]
  omega

/-- A worker that owes something has something to do. -/
theorem Fit.queue_ne_nil (h : w.Fit) (hp : w.phase = .idle) (ho : w.Owes k urb) :
    w.queue ≠ [] := by
  intro hq
  have hnone : w.requests k = none := by
    by_contra hr
    have hm := h.onFile k hr
    rw [h.idle hp] at hm
    cases hm
  rw [Owes, word, hnone, hq] at ho
  exact not_open_nil ho

theorem settle_variant_lt {n : Nat} (h : 8 * v.burden + (if v.readPending then 6 else 5) < n) :
    v.settle.variant < n := by
  have hb := settle_burden_le v
  have hr := settle_rank_le v
  unfold variant
  omega

theorem afterBarrier_variant (h : w.Fit) {len : UInt32} {flush : Option Oneshot}
    (hp : w.phase = .barrier seqnum len flush) (hlen : Readable len w.maxPacketSize) :
    (w.afterBarrier seqnum len (.ok ())).1.variant < w.variant := by
  have hdrain := drain_burden w
  have hrank : w.rank = 5 := by
    unfold rank
    rw [hp]
  unfold afterBarrier
  dsimp only
  split
  · rename_i hnext
    -- The read is for the request at the head.
    have hcontains : w.drain.pending.contains seqnum = true :=
      decide_eq_true (List.mem_of_mem_head? (of_decide_eq_true hnext))
    have hread : (w.drain.submitRead seqnum len).burden = w.drain.burden ∧
        (w.drain.submitRead seqnum len).rank = 2 := by
      rw [submitRead_of_readable (drain_maxPacketSize w ▸ hlen)]
      exact ⟨rfl, if_pos hcontains⟩
    dsimp only
    unfold variant
    omega
  · rename_i hnext
    -- Something was drained, or the head would still be the head.
    have hne : w.queue ≠ [] := by
      intro hq
      refine hnext (decide_eq_true ?_)
      rw [drain, hq]
      exact h.head seqnum len flush hp
    have hpos := List.length_pos_iff.mpr hne
    refine settle_variant_lt ?_
    unfold variant
    split <;> omega

theorem complete_variant (hp : w.phase = .reading) (result : Except TransferError (List UInt8)) :
    (w.complete result).1.variant < w.variant := by
  have hend : (w.endRead result).burden = w.burden := rfl
  have hrank : w.rank = if w.activeSeqnum.any w.pending.contains then 2 else 6 := by
    unfold rank
    rw [hp]
  unfold complete
  cases hactive : w.activeSeqnum with
  | none =>
    rw [hactive] at hrank
    refine settle_variant_lt (v := w.endRead result) ?_
    unfold variant
    rw [hend, hrank]
    exact Nat.add_lt_add_left (show 5 < 6 by decide) _
  | some seqnum =>
    rw [hactive] at hrank
    -- Either a pending URB goes, or the read was for one that had gone, and ranked higher.
    have hforget : ((w.endRead result).forget seqnum).settle.variant < w.variant := by
      refine settle_variant_lt ?_
      have hread : ((w.endRead result).forget seqnum).readPending = false := rfl
      rw [hread]
      unfold variant
      by_cases hm : seqnum ∈ w.pending.seqnums
      · have hlt := forget_burden_lt (w := w.endRead result) hm
        simp only [Bool.false_eq_true, if_false]
        omega
      · have hle := forget_burden_le (w.endRead result) seqnum
        have hcontains : ¬ (some seqnum).any w.pending.contains = true := by
          simpa [PendingBulkIn.contains] using hm
        rw [if_neg hcontains] at hrank
        simp only [Bool.false_eq_true, if_false]
        omega
    dsimp only
    split
    · exact hforget
    · exact hforget

/-- **The next move towards the answer.** -/
theorem Fit.advance (h : w.Fit) (ha : w.Able) (ho : w.Owes k urb) :
    ∃ move w' events, move.Passing ∧ w.step move = some (w', events) ∧ w'.Able ∧
      w'.variant < w.variant := by
  cases hp : w.phase with
  -- Any packet size will do, and 1 is one: a buffer of the length asked for is small enough.
  | opening =>
    have hs : w.step (.opened (some 1)) = some ({ w with maxPacketSize := 1 }.settle, []) := by
      simp only [InWorker.step, hp, if_true]
    refine ⟨.opened (some 1), _, _, trivial, hs, ?_, settle_variant_lt ?_⟩
    · have hon : GoesOn True { w with maxPacketSize := 1 }
          { w with maxPacketSize := 1 }.settle := settle_goesOn rfl
      refine ⟨hon.running trivial, Or.inr fun request _ => ?_⟩
      rw [hon.maxPacketSize]
      exact readable_one _
    · have hrank : w.rank = 7 := by
        unfold rank
        rw [hp]
      have hb : burden { w with maxPacketSize := 1 } = w.burden := rfl
      unfold variant
      split <;> omega
  -- That there is a buffer for the read is part of being able.
  | barrier seqnum len flush =>
    have hs : w.step (.barrierResult (.ok ())) = some (w.afterBarrier seqnum len (.ok ())) := by
      simp only [InWorker.step, hp]
    have hopened : w.phase ≠ .opening := by simp [hp]
    obtain ⟨request, hr, rfl⟩ := h.request seqnum len flush hp
    have hlen := ha.readable.resolve_left hopened request (Or.inr ⟨seqnum, hr⟩)
    exact ⟨.barrierResult (.ok ()), _, _, trivial, hs, ha.step h hopened hs,
      afterBarrier_variant h hp hlen⟩
  | reading =>
    have hs : w.step (.completion (.ok [])) = some (w.complete (.ok [])) := by
      simp only [InWorker.step, hp, if_true]
    have hopened : w.phase ≠ .opening := by simp [hp]
    exact ⟨.completion (.ok []), _, _, trivial, hs, ha.step h hopened hs, complete_variant hp _⟩
  -- Whoever owes an answer and is idle has a command in its queue.
  | idle =>
    obtain ⟨command, queue, hq⟩ := List.exists_cons_of_ne_nil (h.queue_ne_nil hp ho)
    have hs : w.step .command =
        some (({ w with queue := queue }.acceptIdle command).settle, []) := by
      simp only [InWorker.step, receive, hq, hp, Option.map_some]
    have hopened : w.phase ≠ .opening := by simp [hp]
    refine ⟨.command, _, _, trivial, hs, ha.step h hopened hs, settle_variant_lt ?_⟩
    have hb : ({ w with queue := queue }.acceptIdle command).burden < w.burden := by
      have haccept := accept_burden w command queue
      have hself : { w with queue := command :: queue } = w := by rw [← hq]
      rw [hself] at haccept
      cases command with
      | submit request => exact haccept
      | unlink seqnum =>
        simp only [acceptIdle, burden, hq, List.length_cons]
        omega
    unfold variant
    split <;> omega
  | stopped => exact absurd hp ha.running

/-- **What an able worker owes, it can answer.** -/
theorem Fit.canAnswer (h : w.Fit) (ha : w.Able) (ho : w.Owes k urb) : w.CanAnswer k urb := by
  refine canReach_of_variant
    (I := fun s : InWorker × List BulkInEvent => s.1.Fit ∧ s.1.Able ∧ s.1.Owes k urb)
    (fun s => s.1.variant) ?_ (w, []) ⟨h, ha, ho⟩
  rintro ⟨w, earlier⟩ ⟨h, ha, ho⟩
  obtain ⟨move, w', events, hm, hs, ha', hlt⟩ := h.advance ha ho
  refine Or.inr ⟨move, (w', events), hm, hs, ?_⟩
  -- The step answers the URB, or leaves it owed and the worker nearer to it.
  rcases (step_serves h.onFile hs ha'.running).owes h.onFile k urb ho with ho' | hanswer
  · exact Or.inr ⟨⟨h.step hs ha'.running, ha', ho'⟩, hlt⟩
  · exact Or.inl hanswer

end InWorker

/-! ## Bulk-OUT workers -/

namespace OutWorker

variable {w w' : OutWorker} {events : List BulkOutEvent} {command : BulkOutCommand}
  {request : BulkOutRequest} {sender : Oneshot}

/-- What becomes of a command that the worker is through with. -/
structure Settles (command : BulkOutCommand) (w' : OutWorker) (events : List BulkOutEvent) :
    Prop where
  submit : ∀ request, command = .submit request →
    ∃ result, events = [event request (submitResponse request.data result)]
  flush : ∀ sender, command = .flush sender → ∃ result, (sender, result) ∈ w'.answers

/-- **A worker that goes on takes the commands in order**, and settles those it is through
    with. -/
theorem Turn.passes (ht : Turn w w' events) (hp : w'.phase ≠ .stopped) :
    w.answers ⊆ w'.answers ∧ (w'.commands = w.commands ∨
      ∃ command, w.commands = command :: w'.commands ∧ Settles command w' events) := by
  have hend : ∀ {v : OutWorker} {sender result}, v.answers = w.answers →
      (v.endFlush sender result).answers = w.answers ++ [(sender, result)] := by
    intro v sender result hv
    cases result <;> exact congrArg (· ++ _) hv
  cases ht with
  | rejected request queue err hphase hq hh =>
    refine ⟨fun _ h => h, Or.inr ⟨.submit request, ?_, ?_, fun _ h => (nomatch h)⟩⟩
    · rw [commands_of_receiving hphase,
        commands_of_receiving (w := { w with queue := queue }) hphase, hq]
    · rintro request' ⟨⟩
      exact ⟨_, rfl⟩
  -- The command in hand counts as waiting until it is through.
  | started command queue hphase hq hh =>
    refine ⟨fun _ h => h, Or.inl ?_⟩
    rw [commands_of_receiving hphase, hq]
    rfl
  | answered sender queue result hphase hq hr =>
    rw [hend (v := { w with queue := queue }) rfl]
    refine ⟨List.subset_append_left _ _, Or.inr ⟨.flush sender, ?_, fun _ h => (nomatch h), ?_⟩⟩
    · rw [commands_of_receiving hphase, endFlush_commands, hq]
    · rintro sender' ⟨⟩
      exact ⟨result, hend (v := { w with queue := queue }) rfl ▸ List.mem_append_right _
        (List.mem_singleton_self _)⟩
  | shut sender queue result hphase hq hr => exact absurd rfl hp
  | unlinked seqnum queue hphase hq =>
    refine ⟨fun _ h => h, Or.inr ⟨.unlink seqnum, ?_, fun _ h => (nomatch h),
      fun _ h => (nomatch h)⟩⟩
    rw [commands_of_receiving hphase, commands_of_receiving (w := { w with queue := queue }) hphase,
      hq]
  | written request result hphase =>
    refine ⟨?_, Or.inr ⟨.submit request, ?_, ?_, fun _ h => (nomatch h)⟩⟩
    · cases result <;> exact fun _ h => h
    · rw [commands_of_busy hphase]
      cases result <;> rfl
    · rintro request' ⟨⟩
      exact ⟨result, rfl⟩
  | flushed sender result hphase =>
    have hanswers : (w.flushed result).answers = w.answers := by
      cases result <;> rfl
    rw [hend hanswers]
    refine ⟨List.subset_append_left _ _, Or.inr ⟨.flush sender, ?_, fun _ h => (nomatch h), ?_⟩⟩
    · rw [commands_of_busy hphase, endFlush_commands, flushed_queue]
    · rintro sender' ⟨⟩
      exact ⟨result, hend hanswers ▸ List.mem_append_right _ (List.mem_singleton_self _)⟩
  | flushedAndShut sender result hphase => exact absurd rfl hp
  | idleFlushed result hphase =>
    refine ⟨?_, Or.inl ?_⟩
    · cases result <;> exact fun _ h => h
    · cases result <;> rfl

/-- A URB stays with the worker until an event answers it. -/
theorem Turn.keepsSubmit (ht : Turn w w' events) (hp : w'.phase ≠ .stopped)
    (hm : .submit request ∈ w.commands) : .submit request ∈ w'.commands ∨
      ∃ event ∈ events, event.seqnum = request.header.seqnum ∧ event.urb = request.urb ∧
        event.generation = request.generation := by
  rcases (ht.passes hp).2 with hsame | ⟨command, hhead, hsettles⟩
  · exact Or.inl (hsame ▸ hm)
  · rw [hhead] at hm
    rcases List.mem_cons.mp hm with rfl | hm
    · obtain ⟨result, rfl⟩ := hsettles.submit request rfl
      exact Or.inr ⟨_, List.mem_singleton_self _, rfl, rfl, rfl⟩
    · exact Or.inl hm

/-- A flush is still to be done, or has been answered. -/
def Minds (w : OutWorker) (sender : Oneshot) : Prop :=
  .flush sender ∈ w.commands ∨ ∃ result, (sender, result) ∈ w.answers

theorem Minds.turn (h : w.Minds sender) (ht : Turn w w' events) (hp : w'.phase ≠ .stopped) :
    w'.Minds sender := by
  obtain ⟨hsub, hcommands⟩ := ht.passes hp
  rcases h with hm | ⟨result, hm⟩
  · rcases hcommands with hsame | ⟨command, hhead, hsettles⟩
    · exact Or.inl (hsame ▸ hm)
    · rw [hhead] at hm
      rcases List.mem_cons.mp hm with rfl | hm
      · exact Or.inr (hsettles.flush sender rfl)
      · exact Or.inl hm
  · exact Or.inr ⟨result, hsub hm⟩

theorem Minds.push (h : w.Minds sender) (command : BulkOutCommand) :
    (w.push command).Minds sender := by
  refine h.imp (fun hm => ?_) id
  rw [commands_push]
  exact List.mem_append_left _ hm

/-! ### The way to the answer -/

/-- What the worker has before it: every command is taken up, and may need the writer. -/
def work (w : OutWorker) : Nat :=
  match w.phase with
  | .busy _ => 2 * w.queue.length + 1
  | _ => 2 * w.queue.length

theorem work_of_receiving (hp : w.phase = .receiving) : w.work = 2 * w.queue.length := by
  unfold work
  rw [hp]

theorem endFlush_work (w : OutWorker) (sender : Oneshot) (result : Except String Unit) :
    (w.endFlush sender result).work = 2 * w.queue.length := by
  cases result <;> rfl

theorem receive_work (hp : w.phase = .receiving) (command : BulkOutCommand) :
    (w.receive command).1.work ≤ 2 * w.queue.length + 1 := by
  have hsame := work_of_receiving hp
  unfold receive
  split
  · split
    · exact hsame.le.trans (Nat.le_succ _)
    · exact le_rfl
  · split
    · rw [endFlush_work]
      omega
    · split
      · exact le_rfl
      · rw [endFlush_work]
        omega
  · split
    · exact Nat.zero_le _
    · split
      · exact le_rfl
      · exact Nat.zero_le _
  · exact hsame.le.trans (Nat.le_succ _)

/-- The writer is not needed for an unlink. -/
def Apt (w : OutWorker) : Prop := ∀ seqnum, w.phase ≠ .busy (.unlink seqnum)

theorem step_apt {move : OutMove} (hs : w.step move = some (w', events)) : w'.Apt := by
  intro seqnum hp
  cases move with
  | command =>
    dsimp only [OutWorker.step] at hs
    split at hs
    · rename_i command queue hphase hq
      have hreceive := congrArg (·.1.phase) (Option.some.inj hs)
      dsimp only at hreceive
      rw [hp] at hreceive
      unfold receive at hreceive
      cases command with
      | submit request =>
        dsimp only at hreceive
        split at hreceive
        · cases hphase.symm.trans hreceive
        · cases hreceive
      | flush sender =>
        dsimp only at hreceive
        split at hreceive
        · cases hreceive
        · split at hreceive
          · cases hreceive
          · cases hreceive
      | shutdown sender =>
        dsimp only at hreceive
        split at hreceive
        · cases hreceive
        · split at hreceive
          · cases hreceive
          · cases hreceive
      -- An unlink is through without the writer, and the phase is what it was.
      | unlink unlinkSeqnum => cases hphase.symm.trans hreceive
    · cases hs
  | io result =>
    dsimp only [OutWorker.step, resume] at hs
    split at hs
    · cases hs
      cases result <;> cases hp
    · cases hs
      cases result <;> cases hp
    · cases hs
      cases hp
    · cases hs
  | idleFlush result =>
    dsimp only [OutWorker.step] at hs
    split at hs
    · rename_i hreceiving
      cases hs
      cases result <;> cases hreceiving.1.symm.trans hp
    · cases hs

/-- **A worker that has something to do gets on with it.** -/
theorem Apt.advance (ha : w.Apt) (hp : w.phase ≠ .stopped) (hne : w.commands ≠ []) :
    ∃ move w' events, w.step move = some (w', events) ∧ w'.work < w.work := by
  cases hphase : w.phase with
  | receiving =>
    rw [commands_of_receiving hphase] at hne
    obtain ⟨command, queue, hq⟩ := List.exists_cons_of_ne_nil hne
    have hs : w.step .command = some ({ w with queue := queue }.receive command) := by
      simp only [OutWorker.step, hphase, hq]
    refine ⟨.command, _, _, hs, ?_⟩
    have hle := receive_work (w := { w with queue := queue }) hphase command
    rw [work_of_receiving hphase, hq, List.length_cons]
    exact Nat.lt_succ_of_le hle
  | busy command =>
    have hwork : w.work = 2 * w.queue.length + 1 := by
      unfold work
      rw [hphase]
    cases command with
    | submit request =>
      have hs : w.step (.io (.ok ())) = some (w.endWrite request (.ok ()),
          [event request (submitResponse request.data (.ok ()))]) := by
        simp only [OutWorker.step, resume, hphase]
      refine ⟨.io (.ok ()), _, _, hs, ?_⟩
      rw [hwork]
      exact Nat.lt_succ_self _
    | flush sender =>
      have hs : w.step (.io (.ok ())) =
          some ((w.flushed (.ok ())).endFlush sender (.ok ()), []) := by
        simp only [OutWorker.step, resume, hphase]
      refine ⟨.io (.ok ()), _, _, hs, ?_⟩
      rw [hwork, endFlush_work]
      exact Nat.lt_succ_self _
    | shutdown sender =>
      have hs : w.step (.io (.ok ())) =
          some ((w.flushed (.ok ())).endShutdown sender (.ok ()), []) := by
        simp only [OutWorker.step, resume, hphase]
      refine ⟨.io (.ok ()), _, _, hs, ?_⟩
      rw [hwork]
      exact Nat.succ_pos _
    | unlink seqnum => exact absurd hphase (ha seqnum)
  | stopped => exact absurd hphase hp

/-- The worker comes to answer the URB. -/
def CanAnswer (w : OutWorker) (k : UInt32) (urb : Urb) : Prop :=
  CanReach (fun (s : OutWorker × List BulkOutEvent) move => s.1.step move) (fun _ _ => True)
    (fun s => ∃ event ∈ s.2, event.seqnum = k ∧ event.urb = urb) (w, [])

/-- **What a running worker has been given, it can answer.** -/
theorem Runs.canAnswer (h : w.Runs) (ha : w.Apt) (hm : .submit request ∈ w.commands) :
    w.CanAnswer request.header.seqnum request.urb := by
  refine canReach_of_variant (I := fun s : OutWorker × List BulkOutEvent =>
      s.1.Runs ∧ s.1.Apt ∧ .submit request ∈ s.1.commands) (fun s => s.1.work) ?_ (w, []) ⟨h, ha, hm⟩
  rintro ⟨w, earlier⟩ ⟨h, ha, hm⟩
  obtain ⟨move, w', events, hs, hlt⟩ := ha.advance h.phase (List.ne_nil_of_mem hm)
  have hruns := h.turn (step_turn hs)
  refine Or.inr ⟨move, (w', events), trivial, hs, ?_⟩
  rcases (step_turn hs).keepsSubmit hruns.phase hm with hm' | ⟨event, he, hk, hurb, -⟩
  · exact Or.inr ⟨⟨hruns, step_apt hs, hm'⟩, hlt⟩
  · exact Or.inl ⟨event, he, hk, hurb⟩

end OutWorker
end Lusbip
