import Lusbip.Session.Accepted
import Lusbip.Session.Barrier

/-!
# The line of the bulk-IN requests

A worker answers its requests in the order of their commands. They stand in one line, the
pending ones in front and those of the queue behind them. Whatever the worker does, it takes
URBs out of the line and leaves the rest in order; what it answers it takes from the head.

The second part needs sequence numbers that do not come again. A read belongs to the URB it
was submitted for as long as its number is the next one, and a URB that gets the number of
an unlinked one would take over its read. `Orderly` is what a worker keeps to otherwise.
-/

namespace Lusbip

def BulkInCommand.urb? : BulkInCommand → Option Urb
  | .submit request => some request.urb
  | .unlink _ => none

namespace InWorker

variable {w w' : InWorker} {seqnums seqnums' : List UInt32}

/-- The URBs that are pending, the next one first. -/
def pendingUrbs (w : InWorker) : List Urb :=
  w.pending.seqnums.filterMap fun seqnum => (w.requests seqnum).map (·.urb)

/-- The URBs the worker has not answered, in the order of their commands. -/
def line (w : InWorker) : List Urb := w.pendingUrbs ++ w.queue.filterMap BulkInCommand.urb?

theorem mem_line {urb : Urb} (h : urb ∈ w.line) : ∃ request, w.Holds request ∧ urb = request.urb := by
  rcases List.mem_append.mp h with h | h
  · obtain ⟨seqnum, -, h⟩ := List.mem_filterMap.mp h
    obtain ⟨request, hr, rfl⟩ := Option.map_eq_some_iff.mp h
    exact ⟨request, Or.inr ⟨seqnum, hr⟩, rfl⟩
  · obtain ⟨command, hm, h⟩ := List.mem_filterMap.mp h
    cases command with
    | submit request => exact ⟨request, Or.inl hm, (Option.some.inj h).symm⟩
    | unlink seqnum => cases h

/-- Entries that go, or lose what they stand for, leave the others in order. -/
theorem filterMap_sublist {α β : Type} {f g : α → Option β} {l l' : List α}
    (hl : l'.Sublist l) (h : ∀ x ∈ l', g x = f x ∨ g x = none) :
    (l'.filterMap g).Sublist (l.filterMap f) := by
  have hg : (l'.filterMap g).Sublist (l'.filterMap f) := by
    induction l' with
    | nil => exact List.Sublist.refl _
    | cons x l' ih =>
      have htail := ih ((List.sublist_cons_self x l').trans hl)
        fun y hy => h y (List.mem_cons_of_mem x hy)
      rw [List.filterMap_cons, List.filterMap_cons]
      rcases h x List.mem_cons_self with hx | hx
      · rw [hx]
        cases f x with
        | none => exact htail
        | some y => exact htail.cons_cons y
      · rw [hx]
        cases f x with
        | none => exact htail
        | some y => exact htail.cons y
  exact hg.trans (hl.filterMap f)

/-! ## What the worker holds -/

theorem Sheds.mem_held (h : Sheds w w') {k : UInt32} (hk : k ∈ w'.held) : k ∈ w.held :=
  List.count_pos_iff.mp ((List.count_pos_iff.mpr hk).trans_le (h.held k))

theorem Sheds.nodup (h : Sheds w w') (hn : w.held.Nodup) : w'.held.Nodup :=
  List.nodup_iff_count_le_one.mpr fun k =>
    (h.held k).trans (List.nodup_iff_count_le_one.mp hn k)

theorem mem_held_of_next {k : UInt32} (h : w.pending.next = some k) : k ∈ w.held :=
  List.mem_append_right _ (List.mem_of_mem_head? h)

/-! ## The parts of the loop -/

theorem settle_line (w : InWorker) : w.settle.line.Sublist w.line := by
  unfold settle
  split
  · exact List.Sublist.refl _
  · have hsub := List.dropWhile_sublist (fun seqnum => (w.requests seqnum).isNone)
      (l := w.pending.seqnums)
    dsimp only
    split
    · exact List.sublist_append_right w.pendingUrbs _
    · rename_i seqnum rest hcons
      rw [hcons] at hsub
      exact (hsub.filterMap _).append_right _

/-- A URB goes from the queue to the end of `pending`, where no other has its number. -/
theorem accept_line (command : BulkInCommand) (queue : List BulkInCommand)
    (hn : (held { w with queue := command :: queue }).Nodup) :
    (line { w.accept command with queue := queue }).Sublist
      (line { w with queue := command :: queue }) := by
  cases command with
  | submit request =>
    have hnew : request.header.seqnum ∉ w.pending.seqnums := fun hm =>
      (List.nodup_append.mp hn).2.2 _ List.mem_cons_self _ hm rfl
    have hpending : pendingUrbs { w.accept (.submit request) with queue := queue } =
        w.pendingUrbs ++ [request.urb] := by
      simp only [pendingUrbs, accept, PendingBulkIn.push, List.filterMap_append]
      congr 1
      · refine List.filterMap_congr fun k hk => ?_
        rw [Function.update_of_ne (ne_of_mem_of_not_mem hk hnew)]
      · simp
    rw [line, hpending, List.append_assoc]
    exact List.Sublist.refl _
  | unlink seqnum =>
    refine List.Sublist.append_right ?_ _
    refine filterMap_sublist List.erase_sublist fun k _ => ?_
    by_cases hk : k = seqnum
    · subst hk
      exact Or.inr (by simp [accept])
    · exact Or.inl (by simp [accept, hk])

theorem acceptAll_line (queue : List BulkInCommand) (w : InWorker)
    (hn : (held { w with queue := queue }).Nodup) :
    (line { queue.foldl accept w with queue := [] }).Sublist (line { w with queue := queue }) := by
  induction queue generalizing w with
  | nil => exact List.Sublist.refl _
  | cons command queue ih =>
    have hnext := (accept_sheds w command queue).nodup hn
    exact (ih (w.accept command) hnext).trans (accept_line command queue hn)

theorem drain_line (hn : w.held.Nodup) : w.drain.line.Sublist w.line :=
  acceptAll_line w.queue w hn

theorem forget_line (w : InWorker) (seqnum : UInt32) : (w.forget seqnum).line.Sublist w.line := by
  refine List.Sublist.append_right (filterMap_sublist List.erase_sublist fun k _ => ?_) _
  by_cases hk : k = seqnum
  · subst hk
    exact Or.inr (by simp [forget])
  · exact Or.inl (by simp [forget, hk])

/-- The URB at the head is answered. -/
theorem forget_head {seqnum : UInt32} {request : BulkInRequest}
    (hnext : w.pending.next = some seqnum) (hr : w.requests seqnum = some request) :
    (request.urb :: (w.forget seqnum).line).Sublist w.line := by
  obtain ⟨rest, hrest⟩ := List.head?_eq_some_iff.mp hnext
  have hline : w.line = request.urb :: (rest.filterMap (fun k => (w.requests k).map (·.urb)) ++
      w.queue.filterMap BulkInCommand.urb?) := by
    rw [line, pendingUrbs, hrest, List.filterMap_cons, hr]
    rfl
  rw [hline]
  refine List.Sublist.cons_cons _ (List.Sublist.append_right ?_ _)
  have herase : (w.forget seqnum).pending.seqnums = rest := by
    simp [forget, PendingBulkIn.unlink, hrest]
  rw [pendingUrbs, herase]
  refine filterMap_sublist (List.Sublist.refl _) fun k _ => ?_
  by_cases hk : k = seqnum
  · subst hk
    exact Or.inr (by simp [forget])
  · exact Or.inl (by simp [forget, hk])

theorem receive_line (hn : w.held.Nodup) (h : w.receive = some w') :
    w'.line.Sublist w.line := by
  obtain ⟨command, queue, v, hq, ht, rfl⟩ := receive_takes h
  have hself := with_queue hq
  have haccept := accept_line command queue (hself.symm ▸ hn)
  rw [hself] at haccept
  refine (settle_line v).trans ?_
  cases ht with
  | accepted => exact haccept
  | cancelled seqnum hc hp =>
    subst hc
    exact haccept
  | skipped seqnum hc hp =>
    -- Nothing is unlinked while the worker is idle.
    subst hc
    rw [← hself]
    exact List.Sublist.refl _

/-! ## A read and its URB -/

/-- The worker holds URBs of different numbers among those used, and a read that is under way
    is for the next of them, or for one that has been unlinked. -/
structure Orderly (seqnums : List UInt32) (w : InWorker) : Prop where
  held : ∀ k ∈ w.held, k ∈ seqnums
  nodup : w.held.Nodup
  active : ∀ k, w.activeSeqnum = some k → w.phase = .reading ∧ w.readPending = true ∧
    k ∈ seqnums ∧ (w.pending.next = some k ∨ k ∉ w.held)

theorem orderly_start (address : UInt8) (outWorker : Option UInt8) :
    Orderly seqnums { address := address, outWorker := outWorker } :=
  ⟨fun _ h => (nomatch h), List.nodup_nil, fun _ h => (nomatch h)⟩

theorem Orderly.mono (h : Orderly seqnums w) (hs : seqnums ⊆ seqnums') :
    Orderly seqnums' w where
  held k hk := hs (h.held k hk)
  nodup := h.nodup
  active k hk := by
    obtain ⟨hp, hr, hm, hnext⟩ := h.active k hk
    exact ⟨hp, hr, hs hm, hnext⟩

/-- A URB with a new number joins the line. -/
theorem Orderly.push_submit (h : Orderly seqnums w) (request : BulkInRequest)
    (hnew : request.header.seqnum ∉ seqnums) :
    Orderly (seqnums ++ [request.header.seqnum]) (w.push (.submit request)) := by
  have hheld : (w.push (.submit request)).held.Perm (w.held ++ [request.header.seqnum]) := by
    simp only [InWorker.held, push, List.filterMap_append, List.filterMap_cons,
      BulkInCommand.submitSeqnum?, List.filterMap_nil, List.append_assoc]
    exact List.Perm.append_left _ List.perm_append_comm
  refine ⟨fun k hk => ?_, ?_, fun k hk => ?_⟩
  · rcases List.mem_append.mp (hheld.mem_iff.mp hk) with hk | hk
    · exact List.mem_append_left _ (h.held k hk)
    · exact List.mem_append_right _ hk
  · refine hheld.nodup_iff.mpr (h.nodup.append (List.nodup_singleton _) ?_)
    intro k hk hk'
    rw [List.mem_singleton.mp hk'] at hk
    exact hnew (h.held _ hk)
  · obtain ⟨hp, hr, hm, hnext⟩ := h.active k hk
    refine ⟨hp, hr, List.mem_append_left _ hm, hnext.imp id fun hnot hheld' => ?_⟩
    rcases List.mem_append.mp (hheld.mem_iff.mp hheld') with hk' | hk'
    · exact hnot hk'
    · rw [List.mem_singleton.mp hk'] at hm
      exact hnew hm

theorem Orderly.push_unlink (h : Orderly seqnums w) (seqnum : UInt32) :
    Orderly seqnums (w.push (.unlink seqnum)) := by
  have hheld : (w.push (.unlink seqnum)).held = w.held := by
    simp [InWorker.held, push, BulkInCommand.submitSeqnum?]
  refine ⟨?_, ?_, ?_⟩
  · rw [hheld]
    exact h.held
  · rw [hheld]
    exact h.nodup
  · rw [hheld]
    exact h.active

theorem line_push_submit (w : InWorker) (request : BulkInRequest) :
    (w.push (.submit request)).line = w.line ++ [request.urb] := by
  simp [line, pendingUrbs, push, BulkInCommand.urb?]

@[simp] theorem line_push_unlink (w : InWorker) (seqnum : UInt32) :
    (w.push (.unlink seqnum)).line = w.line := by
  simp [line, pendingUrbs, push, BulkInCommand.urb?]

/-! ## A step -/

@[simp] theorem settle_activeSeqnum (w : InWorker) : w.settle.activeSeqnum = w.activeSeqnum := by
  unfold settle
  split
  · rfl
  · dsimp only
    split <;> rfl

@[simp] theorem accept_activeSeqnum (w : InWorker) (command : BulkInCommand) :
    (w.accept command).activeSeqnum = w.activeSeqnum := by
  cases command <;> rfl

theorem acceptAll_activeSeqnum (queue : List BulkInCommand) (w : InWorker) :
    (queue.foldl accept w).activeSeqnum = w.activeSeqnum := by
  induction queue generalizing w with
  | nil => rfl
  | cons command queue ih => simp [ih]

@[simp] theorem drain_activeSeqnum (w : InWorker) : w.drain.activeSeqnum = w.activeSeqnum :=
  acceptAll_activeSeqnum w.queue w

/-- Outside a read there is no URB it could be for. -/
theorem Orderly.not_reading (h : Orderly seqnums w) (hp : w.phase ≠ .reading) :
    w.activeSeqnum = none := by
  cases ha : w.activeSeqnum with
  | none => rfl
  | some k => exact absurd (h.active k ha).1 hp

/-- The entry in front stays there when another one comes or goes. -/
theorem next_accept {command : BulkInCommand} {k : UInt32}
    (hnext : w.pending.next = some k) (hn : w.pending.seqnums.Nodup) :
    (w.accept command).pending.next = some k ∨
      command = .unlink k ∧ k ∉ (w.accept command).pending.seqnums := by
  obtain ⟨rest, hrest⟩ := List.head?_eq_some_iff.mp hnext
  cases command with
  | submit request =>
    refine Or.inl ?_
    simp [accept, PendingBulkIn.push, PendingBulkIn.next, hrest]
  | unlink seqnum =>
    by_cases hk : seqnum = k
    · subst hk
      exact Or.inr ⟨rfl, hn.not_mem_erase⟩
    · refine Or.inl ?_
      have hne : ¬ (k == seqnum) = true := by simpa using Ne.symm hk
      simp [accept, PendingBulkIn.unlink, PendingBulkIn.next, hrest, List.erase_cons_tail hne]

/-- A command that comes while a read is under way leaves it with its URB. -/
theorem Orderly.receive_active (h : Orderly seqnums w) (hr : w.receive = some w') {k : UInt32}
    (hk : w'.activeSeqnum = some k) : w'.phase = .reading ∧ w'.readPending = true ∧
      k ∈ seqnums ∧ (w'.pending.next = some k ∨ k ∉ w'.held) := by
  have hsheds := receive_sheds hr
  obtain ⟨command, queue, v, hq, ht, rfl⟩ := receive_takes hr
  rw [settle_activeSeqnum] at hk
  have hactive : w.activeSeqnum = some k := by
    cases ht <;> simpa using hk
  obtain ⟨hphase, hread, hm, hnext⟩ := h.active k hactive
  obtain ⟨hpending, hqueue, hbooks⟩ : v.readPending = true ∧ v.queue = queue ∧
      v.pending = (w.accept command).pending := by
    cases ht with
    | accepted => exact ⟨by cases command <;> exact hread, rfl, rfl⟩
    | cancelled seqnum hc hp =>
      subst hc
      exact ⟨hread, rfl, rfl⟩
    | skipped seqnum hc hp => cases hphase.symm.trans hp
  have hsettle : v.settle = { v with phase := .reading } := by
    rw [settle, if_pos hpending]
  refine ⟨by rw [hsettle], by rw [hsettle]; exact hpending, hm, ?_⟩
  rcases hnext with hnext | hnot
  · have hn := h.nodup
    rw [InWorker.held, hq] at hn
    obtain ⟨-, hnodup, hdisjoint⟩ := List.nodup_append.mp hn
    rw [InWorker.held, settle_queue, hqueue, hsettle, hbooks]
    refine (next_accept hnext hnodup).imp id ?_
    rintro ⟨hcommand, hnot⟩ hheld
    rcases List.mem_append.mp hheld with hheld | hheld
    · have hlater : k ∈ (command :: queue).filterMap BulkInCommand.submitSeqnum? := by
        rw [hcommand]
        exact hheld
      exact hdisjoint k hlater k (List.mem_of_mem_head? hnext) rfl
    · exact hnot hheld
  · exact Or.inr fun hheld => hnot (hsheds.mem_held hheld)

theorem failBarrier_activeSeqnum (w : InWorker) (seqnum : UInt32) :
    (w.failBarrier seqnum).1.activeSeqnum = w.activeSeqnum := by
  unfold failBarrier
  split
  · exact settle_activeSeqnum _
  · exact settle_activeSeqnum _

/-- A barrier that is through has the worker read for the URB in front, or for none. -/
theorem Orderly.afterBarrier_active (h : Orderly seqnums w) (ha : w.activeSeqnum = none)
    {seqnum len : UInt32} {result : Except String Unit} {k : UInt32}
    (hk : (w.afterBarrier seqnum len result).1.activeSeqnum = some k) :
    (w.afterBarrier seqnum len result).1.phase = .reading ∧
      (w.afterBarrier seqnum len result).1.readPending = true ∧ k ∈ seqnums ∧
      (w.afterBarrier seqnum len result).1.pending.next = some k := by
  have hdrain : w.drain.activeSeqnum = none := by rw [drain_activeSeqnum, ha]
  unfold afterBarrier at hk ⊢
  dsimp only at hk ⊢
  split at hk
  · rename_i hnext
    rw [if_pos hnext]
    cases result with
    | error err =>
      dsimp only at hk
      rw [failBarrier_activeSeqnum, hdrain] at hk
      cases hk
    | ok u =>
      dsimp only at hk ⊢
      unfold submitRead at hk ⊢
      split at hk
      · exact nomatch hdrain.symm.trans hk
      · obtain rfl : seqnum = k := Option.some.inj hk
        have hfront : w.drain.pending.next = some seqnum := of_decide_eq_true hnext
        exact ⟨rfl, rfl, h.held seqnum ((drain_sheds w).mem_held (mem_held_of_next hfront)), hfront⟩
  · rw [settle_activeSeqnum, hdrain] at hk
    cases hk

theorem complete_activeSeqnum (w : InWorker) (result : Except TransferError (List UInt8)) :
    (w.complete result).1.activeSeqnum = none := by
  unfold complete
  split
  · simp [endRead]
  · dsimp only
    split <;> simp [endRead, forget]

theorem Orderly.step (h : Orderly seqnums w) {move : InMove} {events : List BulkInEvent}
    (hs : w.step move = some (w', events)) : Orderly seqnums w' := by
  have hm := step_moves hs
  have hheld : ∀ k, w'.held.count k ≤ w.held.count k :=
    fun k => (Nat.le_add_left _ _).trans (hm.held k)
  refine ⟨fun k hk => ?_, ?_, fun k hk => ?_⟩
  · exact h.held k (List.count_pos_iff.mp ((List.count_pos_iff.mpr hk).trans_le (hheld k)))
  · exact List.nodup_iff_count_le_one.mpr fun k =>
      (hheld k).trans (List.nodup_iff_count_le_one.mp h.nodup k)
  · cases step_turn hs with
    | opened size hp =>
      rw [settle_activeSeqnum] at hk
      exact nomatch (h.not_reading (by rw [hp]; simp)).symm.trans hk
    | unopened hp => exact nomatch (h.not_reading (by rw [hp]; simp)).symm.trans hk
    | received v hv => exact h.receive_active hv hk
    | flushing reply seqnum len hp =>
      exact nomatch (h.not_reading (by rw [hp]; simp)).symm.trans hk
    | passed result seqnum len flush hp =>
      have ha := h.not_reading (by rw [hp]; simp)
      obtain ⟨hphase, hread, hmem, hnext⟩ := h.afterBarrier_active ha hk
      exact ⟨hphase, hread, hmem, Or.inl hnext⟩
    | completed result hp =>
      rw [complete_activeSeqnum] at hk
      cases hk

/-! ## What a step takes out of the line -/

theorem failBarrier_line {seqnum : UInt32} (hnext : w.pending.next = some seqnum) :
    ((w.failBarrier seqnum).2.map (·.urb) ++ (w.failBarrier seqnum).1.line).Sublist w.line := by
  unfold failBarrier
  cases hr : w.requests seqnum with
  | some request =>
    exact ((settle_line _).cons_cons request.urb).trans (forget_head hnext hr)
  | none =>
    refine (settle_line _).trans (List.Sublist.append_right ?_ _)
    exact (List.erase_sublist).filterMap _

theorem afterBarrier_line (hn : w.held.Nodup) (seqnum len : UInt32)
    (result : Except String Unit) :
    ((w.afterBarrier seqnum len result).2.map (·.urb) ++
      (w.afterBarrier seqnum len result).1.line).Sublist w.line := by
  refine List.Sublist.trans ?_ (drain_line hn)
  unfold afterBarrier
  dsimp only
  split
  · rename_i hnext
    cases result with
    | error err => exact failBarrier_line (of_decide_eq_true hnext)
    | ok u =>
      dsimp only
      unfold submitRead
      split
      · exact List.nil_sublist _
      · exact List.Sublist.refl _
  · exact settle_line _

theorem Orderly.complete_line (h : Orderly seqnums w)
    (result : Except TransferError (List UInt8)) :
    ((w.complete result).2.map (·.urb) ++ (w.complete result).1.line).Sublist w.line := by
  unfold complete
  cases ha : w.activeSeqnum with
  | none => exact settle_line (w.endRead result)
  | some seqnum =>
    dsimp only
    split
    · rename_i request hp hr
      -- The read's own URB is still pending, so it is the next one.
      have hheld : seqnum ∈ w.held := List.mem_append_right _ (of_decide_eq_true hp)
      have hnext : w.pending.next = some seqnum :=
        (h.active seqnum ha).2.2.2.resolve_right fun hnot => hnot hheld
      have hhead := forget_head (w := w.endRead result) hnext hr
      exact ((settle_line _).cons_cons request.urb).trans hhead
    · exact (settle_line _).trans (forget_line (w.endRead result) seqnum)

/-- **Events are for the URBs at the head of the line**, and the others keep their order. -/
theorem Orderly.step_line (h : Orderly seqnums w) {move : InMove} {events : List BulkInEvent}
    (hs : w.step move = some (w', events)) :
    (events.map (·.urb) ++ w'.line).Sublist w.line := by
  cases step_turn hs with
  | opened size hp => exact settle_line { w with maxPacketSize := size }
  | unopened hp => exact List.nil_sublist _
  | received v hv => exact receive_line h.nodup hv
  | flushing reply seqnum len hp => exact List.Sublist.refl _
  | passed result seqnum len flush hp => exact afterBarrier_line h.nodup seqnum len result
  | completed result hp => exact h.complete_line result

end InWorker
end Lusbip
