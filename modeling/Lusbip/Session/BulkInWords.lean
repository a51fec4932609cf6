import Lusbip.Lib.Withdrawals
import Lusbip.Session.BulkInReplies

/-!
# What stands under a sequence number

A bulk-IN worker has the commands of its queue to go through, and the requests that are pending. For
one sequence number that is a line of requests and unlinks, with the pending request in front:
`word`. Whatever the worker does, it takes from the front of every word, and it gives a URB up
unanswered only for one of the numbers that `dropped` lists, or when it ends.

`Tidy` is what a worker keeps to as long as no `Unlink` hits the URB that it reads for.
-/

namespace Lusbip

open Lib.Withdrawals

/-- What a command is to a sequence number. -/
def BulkInCommand.mark (seqnum : UInt32) : BulkInCommand → List (Option Urb)
  | .submit request => if request.header.seqnum = seqnum then [some request.urb] else []
  | .unlink unlinkSeqnum => if unlinkSeqnum = seqnum then [none] else []

namespace InWorker

variable {w w' : InWorker} {seqnum k : UInt32} {request : BulkInRequest} {move : InMove}
  {events : List BulkInEvent}

def word (w : InWorker) (seqnum : UInt32) : List (Option Urb) :=
  ((w.requests seqnum).map fun request => some request.urb).toList ++
    w.queue.flatMap (·.mark seqnum)

/-- The sequence numbers of the pending URBs that are unlinked by commands. -/
def withdrawn (w : InWorker) : List BulkInCommand → List UInt32
  | [] => []
  | .submit request :: queue => (w.accept (.submit request)).withdrawn queue
  | .unlink seqnum :: queue =>
      (if w.pending.contains seqnum then [seqnum] else []) ++
        (w.accept (.unlink seqnum)).withdrawn queue

/-- The sequence numbers under which a move gives up URBs unanswered. -/
def dropped (w : InWorker) : InMove → List UInt32
  | .opened none => w.held
  | .command => w.withdrawn (w.queue.take 1)
  | .barrierResult result =>
      w.withdrawn w.queue ++
        if w.Ends (.barrierResult result) then w.drain.pending.seqnums else []
  | _ => []

/-- A URB is pending exactly if its request is on file. -/
structure Filed (w : InWorker) : Prop where
  keyed : w.Keyed
  filed : ∀ k, k ∈ w.pending.seqnums ↔ (w.requests k).isSome = true
  nodup : w.pending.seqnums.Nodup

structure Booked (w : InWorker) : Prop where
  filed : w.Filed
  alternating : ∀ k, Alternating (w.word k)
  active : ∀ k, w.activeSeqnum = some k → w.readPending = true ∧ k ∈ w.pending.seqnums

/-- A worker between two steps. -/
structure Tidy (w : InWorker) : Prop extends Booked w where
  running : w.phase ≠ .stopped
  reading : w.readPending = true → w.phase = .reading
  idle : w.phase = .idle → w.pending.seqnums = []

/-- The task has returned. -/
structure Halted (w : InWorker) : Prop where
  phase : w.phase = .stopped
  pending : w.pending.seqnums = []
  requests : ∀ k, w.requests k = none
  active : w.activeSeqnum = none

/-- What a step leaves of the words. -/
structure Leaves (move : InMove) (w w' : InWorker) (events : List BulkInEvent) : Prop where
  tidy : w'.Tidy
  word : ∀ k, Taken (fun urb => ∃ event ∈ events, event.seqnum = k ∧ event.urb = urb)
    (k ∈ w.dropped move) (w.word k) (w'.word k)
  gone : ∀ event ∈ events, some event.urb ∉ w'.word event.seqnum

/-- A step that ends the task. -/
structure Halts (move : InMove) (w w' : InWorker) (events : List BulkInEvent) : Prop where
  halted : w'.Halted
  events : events = []
  word : ∀ k, Owed (w.word k) → k ∈ w.dropped move

/-! ## Words -/

theorem word_congr (hr : w'.requests = w.requests) (hq : w'.queue = w.queue) (k : UInt32) :
    w'.word k = w.word k := by
  rw [word, word, hr, hq]

theorem word_push (w : InWorker) (command : BulkInCommand) (k : UInt32) :
    (w.push command).word k = w.word k ++ command.mark k := by
  simp [word, push]

/-- What a word ends with has just come, or was its end before. -/
theorem open_push {command : BulkInCommand} {urb : Urb} (h : Open ((w.push command).word k) urb) :
    (∃ request, command = .submit request ∧ request.header.seqnum = k ∧ request.urb = urb) ∨
      Open (w.word k) urb := by
  rw [word_push] at h
  cases command with
  | submit request =>
    dsimp only [BulkInCommand.mark] at h
    split at h
    · rw [Open, List.getLast?_concat] at h
      exact Or.inl ⟨request, rfl, ‹_›, Option.some.inj (Option.some.inj h)⟩
    · rw [List.append_nil] at h
      exact Or.inr h
  | unlink seqnum =>
    dsimp only [BulkInCommand.mark] at h
    split at h
    · exact absurd h not_open_snoc
    · rw [List.append_nil] at h
      exact Or.inr h

/-- A URB of a word is one that the worker holds. -/
theorem mem_word {urb : Urb} (h : some urb ∈ w.word k) :
    ∃ request, w.Holds request ∧ request.urb = urb := by
  rcases List.mem_append.mp h with h | h
  · obtain ⟨request, hr, hurb⟩ := Option.map_eq_some_iff.mp (Option.mem_toList.mp h)
    exact ⟨request, Or.inr ⟨k, hr⟩, Option.some.inj hurb⟩
  · obtain ⟨command, hm, hmark⟩ := List.mem_flatMap.mp h
    cases command with
    | submit request =>
      dsimp only [BulkInCommand.mark] at hmark
      split at hmark
      · exact ⟨request, Or.inl hm, (Option.some.inj (List.mem_singleton.mp hmark)).symm⟩
      · cases hmark
    | unlink unlinkSeqnum =>
      dsimp only [BulkInCommand.mark] at hmark
      split at hmark <;> simp at hmark

theorem Filed.mem_held (h : w.Filed) {urb : Urb} (hm : some urb ∈ w.word k) : k ∈ w.held := by
  rcases List.mem_append.mp hm with hm | hm
  · obtain ⟨request, hr, -⟩ := Option.map_eq_some_iff.mp (Option.mem_toList.mp hm)
    exact List.mem_append_right _ ((h.filed k).mpr (by rw [hr]; rfl))
  · obtain ⟨command, hmem, hmark⟩ := List.mem_flatMap.mp hm
    refine List.mem_append_left _ (List.mem_filterMap.mpr ⟨command, hmem, ?_⟩)
    cases command with
    | submit request =>
      dsimp only [BulkInCommand.mark] at hmark
      split at hmark
      · exact congrArg some ‹_›
      · cases hmark
    | unlink unlinkSeqnum =>
      dsimp only [BulkInCommand.mark] at hmark
      split at hmark <;> simp at hmark

/-! ## The commands of the queue -/

/-- A request is filed only where none is on file. -/
theorem Booked.vacant (h : w.Booked) {queue : List BulkInCommand}
    (hq : w.queue = .submit request :: queue) : w.requests request.header.seqnum = none := by
  cases hr : w.requests request.header.seqnum with
  | none => rfl
  | some request' =>
    have halternating := h.alternating request.header.seqnum
    simp only [word, hr, hq, Option.map_some, Option.toList_some, List.flatMap_cons,
      BulkInCommand.mark, if_true, List.cons_append, List.nil_append] at halternating
    exact absurd halternating not_alternating_two

theorem Filed.file (h : w.Filed) (hv : w.requests request.header.seqnum = none) :
    (w.accept (.submit request)).Filed where
  keyed k r hr := by
    by_cases hk : k = request.header.seqnum
    · subst hk
      simp only [accept, Function.update_self, Option.some.injEq] at hr
      rw [hr]
    · exact h.keyed k r (by simpa [accept, hk] using hr)
  filed k := by
    by_cases hk : k = request.header.seqnum
    · subst hk
      simp [accept, PendingBulkIn.push]
    · simpa [accept, PendingBulkIn.push, hk] using h.filed k
  nodup := by
    refine List.Nodup.append h.nodup (List.nodup_singleton _) fun k hk hk' => ?_
    rw [List.mem_singleton.mp hk', h.filed, hv] at hk
    cases hk

theorem Filed.forget (h : w.Filed) (seqnum : UInt32) : (w.forget seqnum).Filed where
  keyed := (forget_sheds w seqnum).keyed h.keyed
  filed k := by
    by_cases hk : k = seqnum
    · subst hk
      simp [InWorker.forget, PendingBulkIn.unlink, h.nodup.not_mem_erase]
    · simpa [InWorker.forget, PendingBulkIn.unlink, hk, h.nodup.mem_erase_iff] using h.filed k
  nodup := h.nodup.erase seqnum

/-- What stands under a number once its request is off the books. -/
theorem word_forget (w : InWorker) (seqnum k : UInt32) :
    (w.forget seqnum).word k = if k = seqnum then w.queue.flatMap (·.mark k) else w.word k := by
  split
  · rename_i hk
    subst hk
    simp [word, forget]
  · rename_i hk
    simp [word, forget, hk]

/-- A command is taken off the queue. -/
theorem Booked.accept (h : w.Booked) {command : BulkInCommand} {queue : List BulkInCommand}
    (hq : w.queue = command :: queue) (hactive : ∀ k ∈ w.withdrawn [command],
      w.activeSeqnum ≠ some k) :
    Booked { w.accept command with queue := queue } ∧
      ∀ k, Taken (fun _ => False) (k ∈ w.withdrawn [command]) (w.word k)
        (word { w.accept command with queue := queue } k) := by
  cases command with
  | submit request =>
    have hv := h.vacant hq
    have hword : ∀ k, word { w.accept (.submit request) with queue := queue } k = w.word k := by
      intro k
      by_cases hk : k = request.header.seqnum
      · subst hk
        simp [word, InWorker.accept, hq, hv, BulkInCommand.mark]
      · simp [word, InWorker.accept, hq, hk, Ne.symm hk, BulkInCommand.mark]
    have hfiled := h.filed.file hv
    refine ⟨⟨⟨hfiled.keyed, hfiled.filed, hfiled.nodup⟩, fun k => ?_, fun k hk => ?_⟩, fun k => ?_⟩
    · rw [hword k]
      exact h.alternating k
    · exact ⟨(h.active k hk).1, List.mem_append_left _ (h.active k hk).2⟩
    · rw [hword k]
      exact .refl _
  | unlink seqnum =>
    -- Under its own number the request goes with the unlink, or the unlink has come too late.
    have htaken : ∀ k, Taken (fun _ => False) (k ∈ w.withdrawn [.unlink seqnum]) (w.word k)
        (word { w.accept (.unlink seqnum) with queue := queue } k) := by
      intro k
      have hforget : word { w.accept (.unlink seqnum) with queue := queue } k =
          if k = seqnum then queue.flatMap (·.mark k)
          else word { w with queue := queue } k := word_forget { w with queue := queue } seqnum k
      rw [hforget]
      split
      · rename_i hk
        subst hk
        cases hr : w.requests k with
        | none =>
          simp only [word, hr, hq, BulkInCommand.mark, List.flatMap_cons, if_true]
          exact .passed (.refl _)
        | some request =>
          have hm : k ∈ w.pending.seqnums := (h.filed.filed k).mpr (by rw [hr]; rfl)
          simp only [word, hr, hq, BulkInCommand.mark, List.flatMap_cons, if_true]
          exact .withdrawn _ (by simp [withdrawn, PendingBulkIn.contains, hm]) (.refl _)
      · rename_i hk
        have hsame : word { w with queue := queue } k = w.word k := by
          simp [word, hq, BulkInCommand.mark, Ne.symm hk]
        rw [hsame]
        exact .refl _
    have hfiled := h.filed.forget seqnum
    refine ⟨⟨⟨hfiled.keyed, hfiled.filed, hfiled.nodup⟩, fun k => ?_, fun k hk => ?_⟩, htaken⟩
    · exact (h.alternating k).suffix (htaken k).suffix
    · refine ⟨(h.active k hk).1, ?_⟩
      have hm := (h.active k hk).2
      -- The URB that is read for is not the one that is unlinked.
      have hne : k ≠ seqnum := by
        rintro rfl
        exact hactive k (by simp [withdrawn, PendingBulkIn.contains, hm]) hk
      exact (List.mem_erase_of_ne hne).mpr hm

theorem withdrawn_cons (w : InWorker) (command : BulkInCommand) (queue : List BulkInCommand) :
    w.withdrawn (command :: queue) = w.withdrawn [command] ++ (w.accept command).withdrawn queue := by
  cases command with
  | submit request => rfl
  | unlink seqnum => simp [withdrawn]

theorem withdrawn_congr (hp : w'.pending = w.pending) (queue : List BulkInCommand) :
    w'.withdrawn queue = w.withdrawn queue := by
  induction queue generalizing w w' with
  | nil => rfl
  | cons command queue ih =>
    have hnext : (w'.accept command).pending = (w.accept command).pending := by
      cases command <;> simp only [InWorker.accept, hp]
    cases command with
    | submit request =>
      rw [withdrawn, withdrawn, ih hnext]
    | unlink seqnum => rw [withdrawn, withdrawn, ih hnext, hp]

theorem accept_queue (w : InWorker) (command : BulkInCommand) (queue queue' : List BulkInCommand) :
    { InWorker.accept { w with queue := queue } command with queue := queue' } =
      { w.accept command with queue := queue' } := by
  cases command <;> rfl

theorem acceptAll_booked (queue : List BulkInCommand) (w : InWorker)
    (h : Booked { w with queue := queue })
    (hactive : ∀ k ∈ w.withdrawn queue, w.activeSeqnum ≠ some k) :
    Booked { queue.foldl InWorker.accept w with queue := [] } ∧
      ∀ k, Taken (fun _ => False) (k ∈ w.withdrawn queue) (word { w with queue := queue } k)
        (word { queue.foldl InWorker.accept w with queue := [] } k) := by
  induction queue generalizing w with
  | nil => exact ⟨h, fun k => .refl _⟩
  | cons command queue ih =>
    rw [withdrawn_cons] at hactive ⊢
    have hsame : withdrawn { w with queue := command :: queue } [command] = w.withdrawn [command] :=
      @withdrawn_congr w { w with queue := command :: queue } rfl _
    obtain ⟨hnext, htaken⟩ := h.accept rfl fun k hk =>
      hactive k (List.mem_append_left _ (hsame ▸ hk))
    rw [accept_queue, hsame] at htaken
    rw [accept_queue] at hnext
    obtain ⟨hbooked, hlater⟩ := ih (w.accept command) hnext fun k hk => by
      rw [accept_activeSeqnum]
      exact hactive k (List.mem_append_right _ hk)
    refine ⟨hbooked, fun k => ?_⟩
    have hfirst := (htaken k).mono (fun _ h => h) (List.mem_append_left
      ((w.accept command).withdrawn queue))
    exact hfirst.trans ((hlater k).mono (fun _ h => h) (List.mem_append_right _))

theorem Booked.drain (h : w.Booked)
    (hactive : ∀ k ∈ w.withdrawn w.queue, w.activeSeqnum ≠ some k) :
    w.drain.Booked ∧
      ∀ k, Taken (fun _ => False) (k ∈ w.withdrawn w.queue) (w.word k) (w.drain.word k) :=
  acceptAll_booked w.queue w h hactive

/-! ## The parts of the loop -/

/-- Nothing is dropped on the way to the next `await`. -/
theorem Filed.settle (h : w.Filed) : w.settle.pending = w.pending ∧
    w.settle.requests = w.requests ∧ w.settle.readPending = w.readPending ∧
      w.settle.phase ≠ .stopped ∧ (w.readPending = true → w.settle.phase = .reading) ∧
        (w.settle.phase = .idle → w.pending.seqnums = []) := by
  have hnone : w.pending.seqnums.dropWhile (fun seqnum => (w.requests seqnum).isNone) =
      w.pending.seqnums := by
    refine List.dropWhile_eq_self_iff.mpr fun hlen => ?_
    have hsome := (h.filed _).mp (List.getElem_mem hlen)
    simpa using Option.isSome_iff_ne_none.mp hsome
  unfold InWorker.settle
  split
  · exact ⟨rfl, rfl, rfl, fun h => (nomatch h), fun _ => rfl, fun h => (nomatch h)⟩
  · rename_i hread
    dsimp only
    rw [hnone]
    split
    · rename_i hnil
      exact ⟨congrArg PendingBulkIn.mk hnil.symm, rfl, rfl, fun h => (nomatch h),
        fun h => absurd h hread, fun _ => hnil⟩
    · rename_i seqnum rest hcons
      exact ⟨congrArg PendingBulkIn.mk hcons.symm, rfl, rfl, fun h => (nomatch h),
        fun h => absurd h hread, fun h => (nomatch h)⟩

theorem Filed.settle_word (h : w.Filed) (k : UInt32) : w.settle.word k = w.word k :=
  word_congr h.settle.2.1 (settle_queue w) k

theorem Booked.settle (h : w.Booked) : w.settle.Tidy := by
  obtain ⟨hpending, hrequests, hread, hrunning, hreading, hidle⟩ := h.filed.settle
  refine ⟨⟨⟨?_, ?_, ?_⟩, ?_, ?_⟩, hrunning, ?_, ?_⟩
  · exact (settle_sheds w).keyed h.filed.keyed
  · rw [hpending, hrequests]
    exact h.filed.filed
  · rw [hpending]
    exact h.filed.nodup
  · intro k
    rw [h.filed.settle_word]
    exact h.alternating k
  · rw [settle_activeSeqnum, hread, hpending]
    exact h.active
  · rw [hread]
    exact hreading
  · rw [hpending]
    exact hidle

/-- The request under a pending entry is answered. -/
theorem Booked.forget (h : w.Booked) (hr : w.requests seqnum = some request)
    (hactive : w.activeSeqnum = none) :
    (w.forget seqnum).Booked ∧
      (∀ k, Taken (fun urb => seqnum = k ∧ request.urb = urb) False (w.word k)
        ((w.forget seqnum).word k)) ∧
      some request.urb ∉ (w.forget seqnum).word seqnum := by
  have hword : w.word seqnum = some request.urb :: w.queue.flatMap (·.mark seqnum) := by
    simp [word, hr]
  have htaken : ∀ k, Taken (fun urb => seqnum = k ∧ request.urb = urb) False (w.word k)
      ((w.forget seqnum).word k) := by
    intro k
    rw [word_forget]
    split
    · rename_i hk
      subst hk
      rw [hword]
      exact .answered _ ⟨rfl, rfl⟩ (.refl _)
    · exact .refl _
  refine ⟨⟨h.filed.forget seqnum, fun k => (h.alternating k).suffix (htaken k).suffix, fun k hk => ?_⟩,
    htaken, ?_⟩
  · exact nomatch hactive.symm.trans hk
  · have halternating := h.alternating seqnum
    rw [hword] at halternating
    rw [word_forget, if_pos rfl]
    exact halternating.not_mem_tail

/-- What neither books nor queue know of may change. -/
theorem Booked.congr (h : w.Booked) (hp : w'.pending = w.pending) (hr : w'.requests = w.requests)
    (hq : w'.queue = w.queue)
    (hactive : ∀ k, w'.activeSeqnum = some k → w'.readPending = true ∧ k ∈ w'.pending.seqnums) :
    w'.Booked where
  filed := by
    refine ⟨?_, ?_, ?_⟩
    · unfold Keyed
      rw [hr]
      exact h.filed.keyed
    · rw [hp, hr]
      exact h.filed.filed
    · rw [hp]
      exact h.filed.nodup
  alternating k := by
    rw [word_congr hr hq]
    exact h.alternating k
  active := hactive

theorem halted_stop (h : w.activeSeqnum = none) : w.stop.Halted :=
  ⟨rfl, rfl, fun _ => rfl, h⟩

/-- Outside a read there is no URB it could be for. -/
theorem Tidy.not_reading (h : w.Tidy) (hp : w.phase ≠ .reading) : w.activeSeqnum = none := by
  cases ha : w.activeSeqnum with
  | none => rfl
  | some k => exact absurd (h.reading (h.active k ha).1) hp

/-- On to the next `await`. -/
theorem Booked.leaves {v : InWorker} (h : v.Booked)
    (hword : ∀ k, Taken (fun urb => ∃ event ∈ events, event.seqnum = k ∧ event.urb = urb)
      (k ∈ w.dropped move) (w.word k) (v.word k))
    (hgone : ∀ event ∈ events, some event.urb ∉ v.word event.seqnum) :
    Leaves move w v.settle events where
  tidy := h.settle
  word k := by
    rw [h.filed.settle_word]
    exact hword k
  gone event hm := by
    rw [h.filed.settle_word]
    exact hgone event hm

/-- The request under a pending entry is answered after the queue may have been drained. -/
theorem Booked.leaves_forget {v : InWorker} {response : UsbIpHeaderBasic → UsbIpResponse}
    (h : v.Booked) (hr : v.requests seqnum = some request) (hactive : v.activeSeqnum = none)
    (hword : ∀ k, Taken (fun _ => False) (k ∈ w.dropped move) (w.word k) (v.word k)) :
    Leaves move w (v.forget seqnum).settle [v.answer seqnum request response] := by
  obtain ⟨hbooked, htaken, hgone⟩ := h.forget hr hactive
  refine hbooked.leaves (fun k => ?_) fun event hm => ?_
  · refine ((hword k).mono (fun _ h => h.elim) id).trans
      ((htaken k).mono (fun urb hurb => ?_) False.elim)
    exact ⟨_, List.mem_singleton_self _, hurb.1, hurb.2⟩
  · rw [List.mem_singleton.mp hm]
    exact hgone

/-! ## A step -/

/-- Nothing is pending that could be unlinked. -/
theorem Tidy.unlink_idle (h : w.Tidy) (hp : w.phase = .idle) (seqnum : UInt32) :
    w.accept (.unlink seqnum) = w := by
  have hnil := h.idle hp
  have hpending : w.pending.unlink seqnum = w.pending := by
    rw [PendingBulkIn.unlink, hnil, List.erase_nil]
    exact congrArg PendingBulkIn.mk hnil.symm
  have hrequests : Function.update w.requests seqnum none = w.requests := by
    have hempty := h.filed.filed seqnum
    rw [hnil] at hempty
    have hnone : w.requests seqnum = none := by simpa using hempty
    exact Function.update_eq_self_iff.mpr hnone.symm
  simp only [InWorker.accept, hpending, hrequests]

theorem Tidy.receive (h : w.Tidy) (hr : w.receive = some w')
    (hactive : ∀ k ∈ w.dropped .command, w.activeSeqnum ≠ some k) :
    Leaves .command w w' [] := by
  obtain ⟨command, queue, v, hq, ht, rfl⟩ := receive_takes hr
  have hdropped : w.dropped .command = w.withdrawn [command] := by
    simp [dropped, hq]
  rw [hdropped] at hactive
  obtain ⟨hbooked, htaken⟩ := h.toBooked.accept hq hactive
  rw [← hdropped] at htaken
  have hword : ∀ k, Taken (fun urb => ∃ event ∈ ([] : List BulkInEvent),
      event.seqnum = k ∧ event.urb = urb) (k ∈ w.dropped .command) (w.word k)
      (word { w.accept command with queue := queue } k) :=
    fun k => (htaken k).mono (fun _ h => h.elim) id
  cases ht with
  | accepted => exact hbooked.leaves hword fun _ h => nomatch h
  | cancelled seqnum hc hp =>
    subst hc
    have hreading : Booked { w.accept (.unlink seqnum) with
        queue := queue, cancelling := w.cancelling || w.activeSeqnum = some seqnum } :=
      hbooked.congr rfl rfl rfl hbooked.active
    exact hreading.leaves hword fun _ h => nomatch h
  | skipped seqnum hc hp =>
    subst hc
    rw [h.unlink_idle hp] at hbooked hword
    exact hbooked.leaves hword fun _ h => nomatch h

theorem acceptAll_readPending (queue : List BulkInCommand) (w : InWorker) :
    (queue.foldl accept w).readPending = w.readPending := by
  induction queue generalizing w with
  | nil => rfl
  | cons command queue ih =>
    rw [List.foldl_cons, ih]
    cases command <;> rfl

@[simp] theorem drain_readPending (w : InWorker) : w.drain.readPending = w.readPending :=
  acceptAll_readPending w.queue w

theorem Booked.submitRead (h : w.Booked) (hread : w.readPending = false)
    (hnext : w.pending.next = some seqnum) (len : UInt32) :
    (w.submitRead seqnum len).Halted ∧ ¬ Readable len w.maxPacketSize ∨
      (w.submitRead seqnum len).Tidy ∧ ∀ k, (w.submitRead seqnum len).word k = w.word k := by
  have hm : seqnum ∈ w.pending.seqnums := List.mem_of_mem_head? hnext
  by_cases hlen : Readable len w.maxPacketSize
  · rw [submitRead_of_readable hlen]
    refine Or.inr ⟨⟨h.congr rfl rfl rfl fun k hk => ?_, fun h => (nomatch h), fun _ => rfl,
      fun h => (nomatch h)⟩, fun k => rfl⟩
    cases hk
    exact ⟨rfl, hm⟩
  · rw [submitRead_of_not_readable hlen]
    refine Or.inl ⟨halted_stop ?_, hlen⟩
    cases ha : w.activeSeqnum with
    | none => rfl
    | some k => exact nomatch hread.symm.trans (h.active k ha).1

theorem Tidy.afterBarrier (h : w.Tidy) {len : UInt32} {flush : Option Oneshot}
    (hp : w.phase = .barrier seqnum len flush) (result : Except String Unit) :
    Leaves (.barrierResult result) w (w.afterBarrier seqnum len result).1
        (w.afterBarrier seqnum len result).2 ∨
      Halts (.barrierResult result) w (w.afterBarrier seqnum len result).1
        (w.afterBarrier seqnum len result).2 := by
  have hidle : w.activeSeqnum = none := h.not_reading (by simp [hp])
  have hread : w.readPending = false := by
    cases hread : w.readPending with
    | false => rfl
    | true => cases hp.symm.trans (h.reading hread)
  obtain ⟨hbooked, hdrain⟩ := h.toBooked.drain (by
    intro k _ hk
    cases hidle.symm.trans hk)
  have hdropped : ∀ k ∈ w.withdrawn w.queue, k ∈ w.dropped (.barrierResult result) :=
    fun k hk => List.mem_append_left _ hk
  -- What the drained queue takes from the word of a number is accounted for first.
  have htaken : ∀ k, Taken (fun _ => False) (k ∈ w.dropped (.barrierResult result)) (w.word k)
      (w.drain.word k) := fun k => (hdrain k).mono (fun _ h => h) (hdropped k)
  have hsilent : ∀ k, Taken (fun urb => ∃ event ∈ ([] : List BulkInEvent),
      event.seqnum = k ∧ event.urb = urb) (k ∈ w.dropped (.barrierResult result)) (w.word k)
      (w.drain.word k) := fun k => (htaken k).mono (fun _ h => h.elim) id
  have hgone : ∀ v : InWorker, ∀ event ∈ ([] : List BulkInEvent),
      some event.urb ∉ v.word event.seqnum := by
    intro v event hm
    cases hm
  unfold InWorker.afterBarrier
  dsimp only
  split
  · rename_i hnext
    -- The URB of the barrier still stands at the head: its read fails, has no buffer, or is made.
    have hnext' : w.drain.pending.next = some seqnum := of_decide_eq_true hnext
    cases result with
    | error err =>
      have hm := (hbooked.filed.filed seqnum).mp (List.mem_of_mem_head? hnext')
      obtain ⟨request, hr⟩ := Option.isSome_iff_exists.mp hm
      dsimp only [failBarrier]
      rw [hr]
      refine Or.inl (hbooked.leaves_forget hr ?_ htaken)
      rw [drain_activeSeqnum, hidle]
    | ok u =>
      have hsubmit := hbooked.submitRead (by rw [drain_readPending, hread]) hnext' len
      rcases hsubmit with ⟨hhalted, hlen⟩ | ⟨htidy, hword⟩
      · refine Or.inr ⟨hhalted, rfl, fun k howed => ?_⟩
        rcases (htaken k).owed howed with howed | ⟨urb, hurb⟩ | hk
        · -- What was owed ends with the task.
          obtain ⟨urb, hurb⟩ := howed.mem
          have hheld := hbooked.filed.mem_held hurb
          rw [drain_maxPacketSize] at hlen
          have hends : w.Ends (.barrierResult (.ok u)) := (overreads_iff hp).mpr ⟨hnext, hlen⟩
          have hpending : k ∈ w.drain.pending.seqnums := by
            simpa [InWorker.held, InWorker.drain] using hheld
          rw [dropped, if_pos hends]
          exact List.mem_append_right _ hpending
        · exact hurb.elim
        · exact hk
      · refine Or.inl ⟨htidy, fun k => ?_, hgone _⟩
        rw [hword]
        exact hsilent k
  · exact Or.inl (hbooked.leaves hsilent (hgone _))

theorem Tidy.complete (h : w.Tidy) (result : Except TransferError (List UInt8)) :
    Leaves (.completion result) w (w.complete result).1 (w.complete result).2 := by
  have hend : (w.endRead result).Booked := h.toBooked.congr rfl rfl rfl fun k hk => nomatch hk
  unfold InWorker.complete
  cases hactive : w.activeSeqnum with
  | none => exact hend.leaves (fun k => .refl _) fun _ h => nomatch h
  | some seqnum =>
    have hm := (h.active seqnum hactive).2
    obtain ⟨request, hr⟩ := Option.isSome_iff_exists.mp ((h.filed.filed seqnum).mp hm)
    have hcontains : w.pending.contains seqnum = true := decide_eq_true hm
    dsimp only
    rw [hcontains, hr]
    exact hend.leaves_forget hr rfl fun k => .refl _

/-- **What a step of the worker does to its words.** -/
theorem Tidy.step (h : w.Tidy) (hs : w.step move = some (w', events))
    (hactive : ∀ k ∈ w.dropped move, w.activeSeqnum ≠ some k) :
    Leaves move w w' events ∨ Halts move w w' events := by
  cases step_turn hs with
  | opened size hp =>
    have hsize : Booked { w with maxPacketSize := size } :=
      h.toBooked.congr rfl rfl rfl h.active
    exact Or.inl (hsize.leaves (fun k => .refl _) fun _ h => nomatch h)
  | unopened hp =>
    refine Or.inr ⟨halted_stop (h.not_reading (by simp [hp])), rfl, fun k howed => ?_⟩
    obtain ⟨urb, hurb⟩ := howed.mem
    exact h.filed.mem_held hurb
  | received v hv => exact Or.inl (h.receive hv hactive)
  | flushing reply seqnum len hp =>
    refine Or.inl ⟨⟨h.toBooked.congr rfl rfl rfl h.active, fun h => (nomatch h), fun hread => ?_,
      fun h => (nomatch h)⟩, fun k => .refl _, fun _ h => (nomatch h)⟩
    exact nomatch hp.symm.trans (h.reading hread)
  | passed result seqnum len flush hp => exact h.afterBarrier hp result
  | completed result hp => exact Or.inl (h.complete result)

/-! ## What the handler does to a worker -/

theorem tidy_start (address : UInt8) (outWorker : Option UInt8) :
    Tidy { address := address, outWorker := outWorker } where
  filed := ⟨fun _ _ h => (nomatch h), fun _ => by simp, List.nodup_nil⟩
  alternating _ := alternating_nil
  active _ h := nomatch h
  running h := nomatch h
  reading h := nomatch h
  idle h := nomatch h

theorem Tidy.push (h : w.Tidy) {command : BulkInCommand}
    (hs : ∀ k, Alternating (w.word k ++ command.mark k)) : (w.push command).Tidy where
  filed := ⟨h.filed.keyed, h.filed.filed, h.filed.nodup⟩
  alternating k := by
    rw [word_push]
    exact hs k
  active := h.active
  running := h.running
  reading := h.reading
  idle := h.idle

theorem Tidy.push_unlink (h : w.Tidy) (seqnum : UInt32) : (w.push (.unlink seqnum)).Tidy := by
  refine h.push fun k => ?_
  dsimp only [BulkInCommand.mark]
  split
  · exact (h.alternating k).withdraw
  · rw [List.append_nil]
    exact h.alternating k

/-- A URB joins a word that is not open. -/
theorem Tidy.push_submit (h : w.Tidy)
    (hopen : ∀ urb, ¬ Open (w.word request.header.seqnum) urb)
    (hnew : some request.urb ∉ w.word request.header.seqnum) :
    (w.push (.submit request)).Tidy := by
  refine h.push fun k => ?_
  dsimp only [BulkInCommand.mark]
  split
  · rename_i hk
    subst hk
    exact (h.alternating _).request hopen hnew
  · rw [List.append_nil]
    exact h.alternating k

theorem Halted.push (h : w.Halted) (command : BulkInCommand) : (w.push command).Halted :=
  ⟨h.phase, h.pending, h.requests, h.active⟩

end InWorker
end Lusbip
