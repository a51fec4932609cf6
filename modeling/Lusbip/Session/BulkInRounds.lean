import Lusbip.Session.BulkInWords

/-!
# The rounds of the bulk-IN loop

`pending`, `requests`, `read_pending` and `active_seqnum` of `run_bulk_in_worker` are four variables,
and seven places of the loop change them, some of them by a `continue`. What they have to do with
each other and with the endpoint is `Represented`, and it is said where the source could assert it:
at the top of the loop. A step of the worker goes on from there to its next `await`; `atTop` stops
at the top.

The worker is run on its own here, by whatever the handler sends to it and whatever its `await`s
come to. `taken` is what it has received.
-/

namespace Lusbip

open Lib.Transition

namespace InWorker

/-- The endpoint has returned the read, and its URB is taken off the books. -/
def endActive (w : InWorker) (result : Except TransferError (List UInt8)) : InWorker :=
  match w.activeSeqnum with
  | none => w.endRead result
  | some seqnum => (w.endRead result).forget seqnum

/-- The next command of the queue, taken by the branch that waits for one. -/
def takeCommand (w : InWorker) : Option InWorker :=
  match w.queue with
  | [] => none
  | command :: queue =>
      let w := { w with queue := queue }
      match w.phase with
      | .barrier _ _ _ => some (w.accept command)
      | .reading => some (w.acceptReading command)
      | .idle => some (w.acceptIdle command)
      | _ => none

/-- The worker back at the top of its loop, if the move takes it there. A read that has been
    submitted is waited for in the same round, and so is the answer to a flush. -/
def atTop (w : InWorker) : InMove → Option InWorker
  | .opened maxPacketSize =>
      if w.phase = .opening then
        maxPacketSize.map fun size => { w with maxPacketSize := size }
      else none
  | .command => w.takeCommand
  | .flushSent _ => none
  | .barrierResult result =>
      match w.phase with
      | .barrier seqnum _ _ =>
          if shouldSubmitBulkInAfterBarrier w.drain.pending seqnum then
            match result with
            | .error _ => some (w.drain.forget seqnum)
            | .ok () => none
          else some w.drain
      | _ => none
  | .completion result => if w.phase = .reading then some (w.endActive result) else none

/-- The commands a move takes from the queue. -/
def takes (w : InWorker) : InMove → List BulkInCommand
  | .command => w.queue.take 1
  | .barrierResult _ => w.queue
  | _ => []

/-- What the variables of the worker have to do with each other, and with the endpoint. -/
structure Represented (taken : List BulkInCommand) (w : InWorker) : Prop extends Filed w where
  reading : w.readPending = true ↔ w.activeSeqnum.isSome = true
  outstanding : w.readPending = true ↔ w.outstanding.length = 1
  single : w.outstanding.length ≤ 1
  active : ∀ k, w.activeSeqnum = some k →
    w.pending.next = some k ∨ .unlink k ∈ taken ∧ k ∉ w.pending.seqnums

end InWorker

/-- What happens to a worker: the handler sends it a command, or it moves. -/
inductive InInput where
  | send (command : BulkInCommand)
  | move (move : InMove)

/-- The sequence number of a `Submit`. -/
def InInput.submitSeqnum? : InInput → Option UInt32
  | .send command => command.submitSeqnum?
  | .move _ => none

/-- A worker, with the sequence numbers it has been sent requests for, and the commands it has
    taken. -/
structure InRun where
  worker : InWorker
  seqnums : List UInt32 := []
  taken : List BulkInCommand := []

namespace InRun

/-- A worker that has not opened its endpoint. -/
def start (address : UInt8) (outWorker : Option UInt8) : InRun where
  worker := { address := address, outWorker := outWorker }

def step (r : InRun) : InInput → Option InRun
  | .send command =>
      match r.worker.send command with
      | .sent w =>
          some { r with worker := w, seqnums := r.seqnums ++ command.submitSeqnum?.toList }
      | _ => none
  | .move move =>
      (r.worker.step move).map fun result =>
        { r with worker := result.1, taken := r.taken ++ r.worker.takes move }

/-- The variables agree while the worker waits, and at the top of the loop if it comes there with
    its next move; and a read that is submitted is the only one. -/
structure Sound (r : InRun) : Prop where
  waiting : r.worker.Represented r.taken
  top : ∀ move w, r.worker.atTop move = some w →
    w.Represented (r.taken ++ r.worker.takes move)
  submits : ∀ move w events len, r.worker.step move = some (w, events) →
    w.outstanding = r.worker.outstanding ++ [len] → r.worker.outstanding = []

end InRun

namespace InWorker

variable {w w' v : InWorker} {move : InMove} {events : List BulkInEvent}
  {taken : List BulkInCommand}

/-! ## A step goes on from the top -/

theorem failBarrier_settle (w : InWorker) (seqnum : UInt32) :
    (w.failBarrier seqnum).1 = (w.forget seqnum).settle := by
  unfold failBarrier
  cases hr : w.requests seqnum with
  | some request => rfl
  | none =>
    -- There is nothing to remove.
    have hsame : Function.update w.requests seqnum none = w.requests :=
      Function.update_eq_self_iff.mpr hr.symm
    rw [forget, hsame]

theorem complete_settle (w : InWorker) (result : Except TransferError (List UInt8)) :
    (w.complete result).1 = (w.endActive result).settle := by
  unfold complete endActive
  cases w.activeSeqnum with
  | none => rfl
  | some seqnum =>
    dsimp only
    split <;> rfl

/-- A move that does not come to the top leaves the worker in its round, or ends it. -/
inductive Stays (w : InWorker) : InMove → InWorker → Prop where
  | unopened (hp : w.phase = .opening) : Stays w (.opened none) w.stop
  | flushing (reply : Oneshot) (seqnum len : UInt32) (hp : w.phase = .barrier seqnum len none) :
      Stays w (.flushSent reply) { w with phase := .barrier seqnum len (some reply) }
  | submitted (seqnum len : UInt32) (flush : Option Oneshot)
      (hp : w.phase = .barrier seqnum len flush) (hnext : w.drain.pending.next = some seqnum) :
      Stays w (.barrierResult (.ok ())) (w.drain.submitRead seqnum len)

theorem receive_eq (w : InWorker) : w.receive = w.takeCommand.map settle := by
  unfold receive takeCommand
  cases w.queue with
  | nil => rfl
  | cons command queue =>
    dsimp only
    cases w.phase <;> rfl

/-- **A step goes on from the top of the loop, or stays in the round.** -/
theorem step_atTop (h : w.step move = some (w', events)) :
    (∃ v, w.atTop move = some v ∧ w' = v.settle) ∨ w.atTop move = none ∧ Stays w move w' := by
  cases step_turn h with
  | opened size hp => exact Or.inl ⟨_, if_pos hp, rfl⟩
  | unopened hp => exact Or.inr ⟨if_pos hp, .unopened hp⟩
  | received v hv =>
    rw [receive_eq] at hv
    obtain ⟨u, hu, rfl⟩ := Option.map_eq_some_iff.mp hv
    exact Or.inl ⟨u, hu, rfl⟩
  | flushing reply seqnum len hp => exact Or.inr ⟨rfl, .flushing reply seqnum len hp⟩
  | passed result seqnum len flush hp =>
    unfold atTop afterBarrier
    rw [hp]
    dsimp only
    split
    · rename_i hnext
      cases result with
      | error err => exact Or.inl ⟨_, rfl, failBarrier_settle w.drain seqnum⟩
      | ok u => exact Or.inr ⟨rfl, .submitted seqnum len flush hp (of_decide_eq_true hnext)⟩
    · exact Or.inl ⟨_, rfl, rfl⟩
  | completed result hp => exact Or.inl ⟨_, if_pos hp, complete_settle w result⟩

/-! ## What the parts of the loop keep -/

/-- A request comes under a number that no other one has. -/
theorem Filed.accept (h : w.Filed) {command : BulkInCommand} {queue : List BulkInCommand}
    (hn : (held { w with queue := command :: queue }).Nodup) : (w.accept command).Filed := by
  cases command with
  | submit request =>
    refine h.file ?_
    have hnew : request.header.seqnum ∉ w.pending.seqnums := fun hm =>
      (List.nodup_append.mp hn).2.2 _ List.mem_cons_self _ hm rfl
    rw [h.filed] at hnew
    simpa using hnew
  | unlink seqnum => exact h.forget seqnum

theorem acceptAll_filed (queue : List BulkInCommand) (w : InWorker) (h : w.Filed)
    (hn : (held { w with queue := queue }).Nodup) : (queue.foldl InWorker.accept w).Filed := by
  induction queue generalizing w with
  | nil => exact h
  | cons command queue ih =>
    exact ih (w.accept command) (h.accept hn) ((accept_sheds w command queue).nodup hn)

theorem Filed.drain (h : w.Filed) (hn : w.held.Nodup) : w.drain.Filed := by
  have hall := acceptAll_filed w.queue w h hn
  exact ⟨hall.keyed, hall.filed, hall.nodup⟩

/-- Nothing is being read. -/
structure Quiet (w : InWorker) : Prop where
  active : w.activeSeqnum = none
  reading : w.readPending = false
  outstanding : w.outstanding = []

theorem Quiet.represented (h : w.Quiet) (hf : w.Filed) : w.Represented taken where
  toFiled := hf
  reading := by simp [h.active, h.reading]
  outstanding := by simp [h.reading, h.outstanding]
  single := by simp [h.outstanding]
  active k hk := nomatch h.active.symm.trans hk

theorem Quiet.drain (h : w.Quiet) : w.drain.Quiet :=
  ⟨by simp [h.active], by simp [h.reading], by simp [h.outstanding]⟩

variable {seqnums : List UInt32}

theorem Represented.quiet (h : w.Represented taken) (ha : w.activeSeqnum = none) : w.Quiet := by
  have hread : w.readPending = false := by simpa [ha] using h.reading
  have hone : w.outstanding.length ≠ 1 := by simpa [hread] using h.outstanding
  exact ⟨ha, hread, List.eq_nil_of_length_eq_zero (by have := h.single; omega)⟩

/-- What the variables do not depend on may change. -/
theorem Represented.congr (h : w.Represented taken) (hp : v.pending = w.pending)
    (hr : v.requests = w.requests) (hread : v.readPending = w.readPending)
    (ha : v.activeSeqnum = w.activeSeqnum) (ho : v.outstanding = w.outstanding) :
    v.Represented taken where
  keyed := by
    rw [Keyed, hr]
    exact h.keyed
  filed := by
    rw [hp, hr]
    exact h.filed
  nodup := by
    rw [hp]
    exact h.nodup
  reading := by
    rw [hread, ha]
    exact h.reading
  outstanding := by
    rw [hread, ho]
    exact h.outstanding
  single := by
    rw [ho]
    exact h.single
  active := by
    rw [ha, hp]
    exact h.active

theorem Represented.settle (h : w.Represented taken) : w.settle.Represented taken := by
  obtain ⟨hpending, hrequests, hread, -⟩ := h.toFiled.settle
  exact h.congr hpending hrequests hread (settle_activeSeqnum w) (settle_outstanding w)

theorem stop_represented (h : w.Quiet) : w.stop.Represented taken :=
  Quiet.represented ⟨h.active, h.reading, h.outstanding⟩
    ⟨fun _ _ h => (nomatch h), fun k => by simp [stop], List.nodup_nil⟩

theorem endActive_quiet (h : w.Represented taken)
    (result : Except TransferError (List UInt8)) : (w.endActive result).Quiet := by
  have htail : w.outstanding.tail = [] := by
    refine List.eq_nil_of_length_eq_zero ?_
    have := h.single
    rw [List.length_tail]
    omega
  unfold endActive
  split
  · exact ⟨rfl, rfl, htail⟩
  · exact ⟨rfl, rfl, htail⟩

theorem Filed.endActive (h : w.Filed) (result : Except TransferError (List UInt8)) :
    (w.endActive result).Filed := by
  have hend : (w.endRead result).Filed := ⟨h.keyed, h.filed, h.nodup⟩
  unfold InWorker.endActive
  split
  · exact hend
  · exact hend.forget _

/-- While a read is under way its URB stays in front, or goes. -/
theorem Represented.acceptReading (h : w.Represented taken) (ho : w.Orderly seqnums)
    {command : BulkInCommand} {queue : List BulkInCommand} (hq : w.queue = command :: queue) :
    ({ w with queue := queue }.acceptReading command).Represented (taken ++ [command]) := by
  have hn : (held { w with queue := command :: queue }).Nodup := with_queue hq ▸ ho.nodup
  have hf := h.toFiled.accept hn
  have haccept : { w.accept command with queue := queue }.Represented (taken ++ [command]) := by
    refine ⟨⟨hf.keyed, hf.filed, hf.nodup⟩, ?_, ?_, ?_, fun k hk => ?_⟩
    · cases command <;> exact h.reading
    · cases command <;> exact h.outstanding
    · cases command <;> exact h.single
    · rw [accept_activeSeqnum] at hk
      rcases h.active k hk with hnext | ⟨hunlinked, hgone⟩
      · refine (next_accept hnext h.nodup).imp id ?_
        rintro ⟨rfl, hgone⟩
        exact ⟨List.mem_append_right _ (List.mem_singleton_self _), hgone⟩
      · refine Or.inr ⟨List.mem_append_left _ hunlinked, fun hm => ?_⟩
        -- No request comes under the number again.
        have hnot : k ∉ w.held := (ho.active k hk).2.2.2.resolve_left fun hnext =>
          hgone (List.mem_of_mem_head? hnext)
        have hsheds := with_queue hq ▸ accept_sheds w command queue
        exact hnot (hsheds.mem_held (List.mem_append_right _ hm))
  cases command with
  | submit request => exact haccept
  | unlink seqnum => exact haccept.congr rfl rfl rfl rfl rfl

/-- **What a step finds at the top of the loop.** -/
theorem Represented.atTop (h : w.Represented taken) (ho : w.Orderly seqnums)
    (hv : w.atTop move = some v) : v.Represented (taken ++ w.takes move) := by
  -- Outside the read the worker has nothing outstanding.
  have hquiet : w.phase ≠ .reading → w.Quiet := fun hp => h.quiet (ho.not_reading hp)
  cases move with
  | opened maxPacketSize =>
    simp only [InWorker.atTop] at hv
    split at hv
    · obtain ⟨size, -, rfl⟩ := Option.map_eq_some_iff.mp hv
      rw [show w.takes (.opened maxPacketSize) = [] from rfl, List.append_nil]
      exact h.congr rfl rfl rfl rfl rfl
    · cases hv
  | command =>
    simp only [InWorker.atTop, takeCommand] at hv
    split at hv
    · cases hv
    · rename_i command queue hq
      have hn : (held { w with queue := command :: queue }).Nodup := with_queue hq ▸ ho.nodup
      have hf := h.toFiled.accept hn
      have htakes : w.takes .command = [command] := by simp [takes, hq]
      rw [htakes]
      split at hv
      · rename_i hp
        cases hv
        have hnone := hquiet (by simp [hp])
        refine Quiet.represented ?_ ?_
        · cases command <;> exact ⟨hnone.active, hnone.reading, hnone.outstanding⟩
        · cases command <;> exact ⟨hf.keyed, hf.filed, hf.nodup⟩
      · cases hv
        exact h.acceptReading ho hq
      · rename_i hp
        cases hv
        have hnone := hquiet (by simp [hp])
        refine Quiet.represented ?_ ?_
        · cases command <;> exact ⟨hnone.active, hnone.reading, hnone.outstanding⟩
        · cases command with
          | submit request => exact ⟨hf.keyed, hf.filed, hf.nodup⟩
          | unlink seqnum => exact ⟨h.keyed, h.filed, h.nodup⟩
      · cases hv
  | flushSent reply => cases hv
  | barrierResult result =>
    simp only [InWorker.atTop] at hv
    split at hv
    · rename_i seqnum len flush hp
      -- After the barrier the queue is drained, whether or not the read is made.
      have hnone := (hquiet (by simp [hp])).drain
      have hf := h.toFiled.drain ho.nodup
      split at hv
      · cases result with
        | error err =>
          cases hv
          exact Quiet.represented ⟨hnone.active, hnone.reading, hnone.outstanding⟩
            (hf.forget seqnum)
        | ok u => cases hv
      · cases hv
        exact hnone.represented hf
    · cases hv
  | completion result =>
    simp only [InWorker.atTop] at hv
    split at hv
    · cases hv
      exact (endActive_quiet h result).represented (h.toFiled.endActive result)
    · cases hv

theorem Represented.stays (h : w.Represented taken) (ho : w.Orderly seqnums)
    (hs : Stays w move w') : w'.Represented (taken ++ w.takes move) := by
  cases hs with
  | unopened hp => exact stop_represented (h.quiet (ho.not_reading (by simp [hp])))
  | flushing reply seqnum len hp =>
    rw [show w.takes (.flushSent reply) = [] from rfl, List.append_nil]
    exact h.congr rfl rfl rfl rfl rfl
  | submitted seqnum len flush hp hnext =>
    have hnone := h.quiet (ho.not_reading (by simp [hp]))
    have hf := h.toFiled.drain ho.nodup
    unfold submitRead
    split
    · exact stop_represented hnone.drain
    · refine ⟨⟨hf.keyed, hf.filed, hf.nodup⟩, by simp, ?_, ?_, fun k hk => ?_⟩
      · simp [hnone.outstanding]
      · simp [hnone.outstanding]
      · cases hk
        exact Or.inl hnext

/-- **A step keeps what the variables have to do with each other.** -/
theorem Represented.step (h : w.Represented taken) (ho : w.Orderly seqnums)
    (hs : w.step move = some (w', events)) : w'.Represented (taken ++ w.takes move) := by
  rcases step_atTop hs with ⟨v, hv, rfl⟩ | ⟨-, hstays⟩
  · exact (h.atTop ho hv).settle
  · exact h.stays ho hstays

end InWorker

/-! ## Runs -/

namespace InRun

variable {r t : InRun}

structure Kept (r : InRun) : Prop where
  orderly : r.worker.Orderly r.seqnums
  represented : r.worker.Represented r.taken

theorem kept_start (address : UInt8) (outWorker : Option UInt8) :
    (start address outWorker).Kept where
  orderly := InWorker.orderly_start address outWorker
  represented := InWorker.Quiet.represented ⟨rfl, rfl, rfl⟩
    (InWorker.tidy_start address outWorker).filed

theorem Kept.sound (h : r.Kept) : r.Sound where
  waiting := h.represented
  top _ _ hv := h.represented.atTop h.orderly hv
  submits move w events len hs ho := by
    have hsingle := (h.represented.step h.orderly hs).single
    rw [ho, List.length_append, List.length_singleton] at hsingle
    exact List.eq_nil_of_length_eq_zero (by omega)

theorem Kept.step (h : r.Kept) {input : InInput}
    (hnew : ∀ k, input.submitSeqnum? = some k → k ∉ r.seqnums) (hs : r.step input = some t) :
    t.Kept ∧ t.seqnums = r.seqnums ++ input.submitSeqnum?.toList := by
  cases input with
  | send command =>
    simp only [InRun.step] at hs
    split at hs
    · rename_i w hw
      cases hs
      unfold InWorker.send at hw
      split at hw
      · cases hw
      · split at hw
        · cases hw
          refine ⟨⟨?_, h.represented.congr rfl rfl rfl rfl rfl⟩, rfl⟩
          cases command with
          | submit request => exact h.orderly.push_submit request (hnew _ rfl)
          | unlink seqnum =>
            exact (h.orderly.push_unlink seqnum).mono fun k hk => List.mem_append_left _ hk
        · cases hw
    · cases hs
  | move move =>
    obtain ⟨⟨w, events⟩, hw, rfl⟩ := Option.map_eq_some_iff.mp hs
    exact ⟨⟨h.orderly.step hw, h.represented.step h.orderly hw⟩, (List.append_nil _).symm⟩

theorem Kept.throughout (inputs : List InInput) (h : r.Kept)
    (hn : (r.seqnums ++ inputs.filterMap InInput.submitSeqnum?).Nodup) :
    Throughout InRun.step Sound r inputs := by
  induction inputs generalizing r with
  | nil => exact h.sound
  | cons input inputs ih =>
    refine ⟨h.sound, fun t ht => ?_⟩
    have hfilter : (input :: inputs).filterMap InInput.submitSeqnum? =
        input.submitSeqnum?.toList ++ inputs.filterMap InInput.submitSeqnum? := by
      cases hk : input.submitSeqnum? <;> simp [hk]
    rw [hfilter, ← List.append_assoc] at hn
    have hnew : ∀ k, input.submitSeqnum? = some k → k ∉ r.seqnums := fun k hk hm =>
      (List.nodup_append.mp (List.nodup_append.mp hn).1).2.2 k hm k
        (Option.mem_toList.mpr hk) rfl
    obtain ⟨hkept, hseqnums⟩ := h.step hnew ht
    exact ih hkept (hseqnums ▸ hn)

/-- **The variables of a bulk-IN worker agree in every run** in which no two `Submit`s have the
    same sequence number, whatever else it is sent and its `await`s come to. -/
theorem sound_of_distinct (address : UInt8) (outWorker : Option UInt8) (inputs : List InInput)
    (hn : (inputs.filterMap InInput.submitSeqnum?).Nodup) :
    Throughout step Sound (start address outWorker) inputs :=
  (kept_start address outWorker).throughout inputs hn

def submitOf (seqnum : UInt32) : BulkInCommand :=
  .submit ⟨⟨1, seqnum, 0, 1, 1⟩, 64, ⟨seqnum.toNat, 1, 1⟩⟩

/-- The URB that is read for is unlinked, with another one behind it. -/
def unlinkWhileReading : List InInput :=
  [.move (.opened (some 64)), .send (submitOf 1), .move .command, .move (.barrierResult (.ok ())),
   .send (submitOf 2), .move .command, .send (.unlink 1), .move .command,
   .move (.completion (.error .cancelled)), .move (.barrierResult (.ok ()))]

theorem unlinkWhileReading_sound :
    Throughout step Sound (start 0x81 none) unlinkWhileReading :=
  sound_of_distinct 0x81 none unlinkWhileReading (by decide)

/-- The second read is submitted when the first one has come back. -/
example : ((List.range 11).map fun n => (run step (start 0x81 none)
      (unlinkWhileReading.take n)).map fun r => (r.worker.activeSeqnum, r.worker.outstanding.length))
    = [some (none, 0), some (none, 0), some (none, 0), some (none, 0), some (some 1, 1),
       some (some 1, 1), some (some 1, 1), some (some 1, 1), some (some 1, 1), some (none, 0),
       some (some 2, 1)] := by
  decide +kernel

end InRun

end Lusbip
