import Mathlib.Data.List.Flatten
import Lusbip.Session.Chronicle
import Lusbip.Session.Outcomes
import Lusbip.Session.Workers

/-!
# Cancelled writes

A bulk-OUT URB can be unlinked while its `Submit` still waits in the queue of its worker. The
handler takes the URB off its books and answers with status 0, and the `Unlink` that it sends goes
to the end of the same queue, behind the `Submit`. The worker ignores it, and would come to it too
late: the URB is written, although the client was told that it is not.

`Cancellations` watches a connection for that. It notes the URBs that are unlinked with success
while they wait, and the bytes of such URBs that a writer is handed afterwards.
-/

namespace Lusbip

open Lib.Transition

/-- The URB that a command submits under a sequence number. -/
def BulkOutCommand.urbOf (seqnum : UInt32) : BulkOutCommand → List Urb
  | .submit request => if request.header.seqnum = seqnum then [request.urb] else []
  | _ => []

structure Cancellations where
  conn : Connection := {}
  /-- The URBs that have been unlinked with success while they waited. -/
  cancelled : List Urb := []
  /-- The bytes of such URBs that have been handed to a writer since. -/
  late : List UInt8 := []

namespace Cancellations

/-- The URBs that a `CMD_UNLINK` cancels in the queue of their worker. -/
def cancelledBy (c : Connection) : Action → List Urb
  | .unlink header unlinkSeqnum =>
      match c.bulkInSeqnums unlinkSeqnum, (c.bulkOutSeqnums unlinkSeqnum).bind c.outs with
      | none, some w =>
          if (handleUsbipCmdUnlink header (unlinkSeqnum ∈ c.pendingBulkOut)).unlinkStatus? = some 0
          then w.queue.flatMap (·.urbOf unlinkSeqnum) else []
      | _, _ => []
  | _ => []

/-- The bytes of cancelled URBs that an action hands to a writer. -/
def lateBy (torn : Urb → Nat) (s : Cancellations) : Action → List UInt8
  | .outMove endpoint move =>
      match s.conn.outs endpoint with
      | some w =>
          match w.phase with
          | .busy (.submit request) =>
              if request.urb ∈ s.cancelled then w.handedBy torn move else []
          | _ => []
      | none => []
  | _ => []

def step (prof : Profile) (torn : Urb → Nat) (s : Cancellations) (a : Action) :
    Option Cancellations :=
  (s.conn.step prof a).map fun c =>
    { conn := c
      cancelled := s.cancelled ++ cancelledBy s.conn a
      late := s.late ++ lateBy torn s a }

/-- The URB that a worker begins to write. -/
def takenUp (c : Connection) : Action → Option BulkOutRequest
  | .outMove endpoint .command =>
      match c.outs endpoint with
      | some w =>
          match w.phase, w.queue, w.health with
          | .receiving, .submit request :: _, none => some request
          | _, _, _ => none
      | none => none
  | _ => none

/-- No worker begins to write a URB with data that was cancelled while it waited. -/
def Spares (s : Cancellations) (a : Action) : Prop :=
  ∀ request ∈ takenUp s.conn a, request.urb ∈ s.cancelled → request.data = []

instance (s : Cancellations) (a : Action) : Decidable (Spares s a) :=
  inferInstanceAs (Decidable (∀ request ∈ takenUp s.conn a, _))

end Cancellations

/-! ## The order of the commands -/

namespace OutWorker

variable {w w' : OutWorker} {ep : UInt8} {clock clock' : Nat}

/-- The URBs at a worker are for its endpoint, and numbered in the order of their commands. -/
structure Lined (ep : UInt8) (clock : Nat) (w : OutWorker) : Prop where
  mine : ∀ urb ∈ w.commands.flatMap BulkOutCommand.urbs, urb.ep = ep ∧ urb.index < clock
  order : (w.commands.flatMap BulkOutCommand.urbs).Pairwise fun u v => u.index < v.index

theorem lined_start (ep : UInt8) (clock : Nat) (address : UInt8) :
    Lined ep clock { address := address } :=
  ⟨fun _ h => (nomatch h), List.Pairwise.nil⟩

theorem Lined.mono (h : Lined ep clock w) (hc : clock ≤ clock') : Lined ep clock' w where
  mine urb hm := ⟨(h.mine urb hm).1, (h.mine urb hm).2.trans_le hc⟩
  order := h.order

theorem Lined.push (h : Lined ep clock w) {command : BulkOutCommand} (hc : clock ≤ clock')
    (hu : ∀ urb ∈ command.urbs, urb.ep = ep ∧ urb.index = clock ∧ clock < clock') :
    Lined ep clock' (w.push command) where
  mine urb hm := by
    rw [commands_push, List.flatMap_append] at hm
    rcases List.mem_append.mp hm with hm | hm
    · exact (h.mono hc).mine urb hm
    · rw [List.flatMap_singleton] at hm
      obtain ⟨hep, hindex, hlt⟩ := hu urb hm
      exact ⟨hep, hindex ▸ hlt⟩
  order := by
    rw [commands_push, List.flatMap_append, List.flatMap_singleton]
    refine List.pairwise_append.mpr ⟨h.order, ?_, fun u hu' v hv => ?_⟩
    · cases command with
      | submit request => exact List.pairwise_singleton _ _
      | _ => exact List.Pairwise.nil
    · rw [(hu v hv).2.1]
      exact (h.mine u hu').2

theorem Lined.turn (h : Lined ep clock w) {events : List BulkOutEvent}
    (ht : Turn w w' events) : Lined ep clock w' := by
  have hsub := ht.moves.commands.flatMap BulkOutCommand.urbs
  exact ⟨fun urb hm => h.mine urb (hsub.subset hm), h.order.sublist hsub⟩

/-- The writer is put to work by a command that is taken up, and by a worker that has not failed. -/
theorem step_busy {move : OutMove} {events : List BulkOutEvent} {command : BulkOutCommand}
    (h : w.step move = some (w', events)) (hp : w'.phase = .busy command) :
    move = .command ∧ w.phase = .receiving ∧ w.health = none ∧
      ∃ queue, w.queue = command :: queue := by
  have ht := step_turn h
  cases ht with
  | started command' queue hr hq hh =>
    cases hp
    refine ⟨?_, hr, hh, queue, hq⟩
    unfold step at h
    cases move with
    | command => rfl
    | io result => simp [resume, hr] at h
    | idleFlush result =>
      dsimp only at h
      split at h
      · have hphase := congrArg (fun p => p.1.phase) (Option.some.inj h)
        cases result <;> exact nomatch hr.symm.trans hphase
      · cases h
  | rejected request queue err hr hq hh => cases hr.symm.trans hp
  | answered sender queue result hr hq hres => cases result <;> cases hp
  | shut sender queue result hr hq hres => cases hp
  | unlinked seqnum queue hr hq => cases hr.symm.trans hp
  | written request result hb => cases result <;> cases hp
  | flushed sender result hb => cases result <;> cases hp
  | flushedAndShut sender result hb => cases result <;> cases hp
  | idleFlushed result hr => cases result <;> exact nomatch hr.symm.trans hp

theorem handedBy_of_empty {torn : Urb → Nat} {request : BulkOutRequest} {move : OutMove}
    (hp : w.phase = .busy (.submit request)) (hd : request.data = []) :
    w.handedBy torn move = [] := by
  unfold handedBy
  rw [hp]
  split
  · rename_i hbusy
    cases hbusy
    exact hd
  · rename_i hbusy
    cases hbusy
    rw [hd, List.take_nil]
  · rfl

/-- A URB that is being written does not wait any more. -/
theorem Lined.not_waiting (h : Lined ep clock w) {request : BulkOutRequest}
    (hp : w.phase = .busy (.submit request)) :
    request.urb ∉ w.queue.flatMap BulkOutCommand.urbs := by
  intro hm
  have horder := h.order
  rw [commands_of_busy hp, List.flatMap_cons] at horder
  have hlt := (List.pairwise_append.mp horder).2.2 _ (List.mem_singleton_self _) _ hm
  exact Nat.lt_irrefl _ hlt

end OutWorker

namespace Cancellations

variable {prof : Profile} {torn : Urb → Nat} {s t : Cancellations} {a : Action}

/-- No byte came late so far, and none will come of what is being written. -/
structure Clear (s : Cancellations) : Prop where
  late : s.late = []
  lined : ∀ ep w, s.conn.outs ep = some w → w.Lined ep s.conn.clock
  writing : ∀ ep w request, s.conn.outs ep = some w → w.phase = .busy (.submit request) →
    request.urb ∈ s.cancelled → request.data = []

theorem clear_init : Clear {} :=
  ⟨rfl, fun _ _ h => (nomatch h), fun _ _ _ h => (nomatch h)⟩

theorem step_eq_some (h : step prof torn s a = some t) :
    Connection.Effect prof s.conn a t.conn ∧ t.cancelled = s.cancelled ++ cancelledBy s.conn a ∧
      t.late = s.late ++ lateBy torn s a := by
  obtain ⟨c, hc, rfl⟩ := Option.map_eq_some_iff.mp h
  exact ⟨Connection.step_effect hc, rfl, rfl⟩

/-- What is cancelled waits at a worker. -/
theorem waits_of_cancelledBy {c : Connection} {urb : Urb} (h : urb ∈ cancelledBy c a) :
    ∃ ep w, c.outs ep = some w ∧ urb ∈ w.queue.flatMap BulkOutCommand.urbs := by
  unfold cancelledBy at h
  split at h
  · split at h
    · rename_i w hin hw
      obtain ⟨ep, -, hw⟩ := Option.bind_eq_some_iff.mp hw
      refine ⟨ep, w, hw, ?_⟩
      split at h
      · obtain ⟨command, hm, hurb⟩ := List.mem_flatMap.mp h
        refine List.mem_flatMap.mpr ⟨command, hm, ?_⟩
        cases command with
        | submit request =>
          unfold BulkOutCommand.urbOf at hurb
          dsimp only at hurb
          split at hurb
          · exact hurb
          · cases hurb
        | _ => cases hurb
      · cases h
    · cases h
  · cases h

/-- A URB that is being written is not one of those that are cancelled. -/
theorem Clear.not_cancelledBy (h : Clear s) {ep : UInt8} {w : OutWorker}
    {request : BulkOutRequest} (hw : s.conn.outs ep = some w)
    (hp : w.phase = .busy (.submit request)) : request.urb ∉ cancelledBy s.conn a := by
  intro hm
  obtain ⟨ep', w', hw', hwaits⟩ := waits_of_cancelledBy hm
  have hmine := (h.lined ep w hw).mine request.urb
    (by simp [OutWorker.commands_of_busy hp, BulkOutCommand.urbs])
  have hmine' := (h.lined ep' w' hw').mine request.urb
    ((w'.queue_sublist.flatMap BulkOutCommand.urbs).subset hwaits)
  have hsame : ep' = ep := hmine'.1.symm.trans hmine.1
  subst hsame
  cases hw.symm.trans hw'
  exact (h.lined ep' w hw).not_waiting hp hwaits

theorem Clear.late_step (h : Clear s) : lateBy torn s a = [] := by
  unfold lateBy
  split
  · split
    · rename_i w hw
      split
      · rename_i request hp
        split
        · exact OutWorker.handedBy_of_empty hp (h.writing _ w request hw hp ‹_›)
        · rfl
      · rfl
    · rfl
  · rfl

theorem Clear.step (h : Clear s) (hs : Spares s a)
    (hstep : Cancellations.step prof torn s a = some t) : Clear t := by
  obtain ⟨he, hcancelled, hlate⟩ := step_eq_some hstep
  have hclock := he.mono.1
  refine ⟨?_, fun ep w hw => ?_, fun ep w request hw hp hm => ?_⟩
  · rw [hlate, h.late, h.late_step]
    rfl
  · cases he.out hw with
    | started outcome ha himporting => exact OutWorker.lined_start ep _ ep
    | kept w hw => exact (h.lined ep w hw).mono hclock
    | told w command hw' hc =>
      refine (h.lined ep w hw').push hclock fun urb hurb => ?_
      cases hc with
      | submit command' hp hdir =>
        cases List.mem_singleton.mp hurb
        refine ⟨rfl, rfl, ?_⟩
        rw [he.submit_clock rfl]
        exact Nat.lt_succ_self _
      | _ => cases hurb
    | moved w w' move events hw' ha hst =>
      exact ((h.lined ep w hw').turn (OutWorker.step_turn hst)).mono hclock
  · have hwas : ∀ v, s.conn.outs ep = some v → v.phase = .busy (.submit request) →
        request.data = [] := by
      intro v hv hvp
      rw [hcancelled] at hm
      rcases List.mem_append.mp hm with hm | hm
      · exact h.writing ep v request hv hvp hm
      · exact absurd hm (h.not_cancelledBy hv hvp)
    cases he.out hw with
    | started outcome ha himporting => cases hp
    | kept w hw => exact hwas w hw hp
    | told w command hw' hc => exact hwas w hw' hp
    | moved w w' move events hw' ha hst =>
      -- The worker has just taken the URB up, and it was not cancelled.
      obtain ⟨rfl, hr, hh, queue, hq⟩ := OutWorker.step_busy hst hp
      subst ha
      have htaken : takenUp s.conn (.outMove ep .command) = some request := by
        simp [takenUp, hw', hr, hq, hh]
      have hnone : cancelledBy s.conn (.outMove ep .command) = [] := rfl
      rw [hcancelled, hnone, List.append_nil] at hm
      exact hs request htaken hm

/-- **No byte of a cancelled URB is handed to a writer** in a run in which no worker begins to
    write one. -/
theorem cancelled_not_written (prof : Profile) (torn : Urb → Nat) {acts : List Action}
    (h : Along (Cancellations.step prof torn) Spares {} acts) :
    Throughout (Cancellations.step prof torn) (fun s => s.late = []) {} acts :=
  throughout_of_along (fun _ _ _ h hs hst => h.step hs hst) (fun _ h => h.late) clear_init h

/-- Two writes, the second of which is unlinked while it waits. -/
def cancelWaiting (first : Except String Unit) : List Action :=
  Connection.attach ++ [Connection.submitWrite 1, Connection.submitWrite 2, .outMove 1 .command,
    Connection.unlinkUrb 3 2, .outMove 1 (.io first), .outMove 1 .command]

/-- The first write fails, and the second is not begun. -/
theorem cancelled_not_written_broken :
    Throughout (Cancellations.step .release fun _ => 0) (fun s => s.late = []) {}
      (cancelWaiting (.error "broken pipe")) :=
  cancelled_not_written .release (fun _ => 0) (by decide +kernel)

/-- **The byte of the second write is sent, after its URB was unlinked.** -/
theorem cancelled_sometimes_written : ¬ ∀ (prof : Profile) (torn : Urb → Nat) (acts : List Action),
    Throughout (Cancellations.step prof torn) (fun s => s.late = []) {} acts := by
  intro h
  have hrun : (run (Cancellations.step .release fun _ => 0) {}
      (cancelWaiting (.ok ()) ++ [.outMove 1 (.io (.ok ()))])).any
        (fun s => s.late = [0xAA]) = true := by decide +kernel
  obtain ⟨s, hr, hs⟩ := (Option.any_eq_true _ _).mp hrun
  have hlate := (h .release (fun _ => 0) _).of_run hr
  rw [of_decide_eq_true hs] at hlate
  cases hlate

end Cancellations
end Lusbip
