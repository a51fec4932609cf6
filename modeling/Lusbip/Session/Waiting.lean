import Mathlib.Algebra.Order.BigOperators.Group.Finset
import Mathlib.Data.FinEnum
import Lusbip.Session.Answerable
import Lusbip.Session.Bearers

/-!
# The handler does not wait in vain

The handler waits for the OUT workers before a URB of endpoint 0, and while it prepares an import,
and it waits for room when the queue of a worker is full. It takes no command meanwhile. `CanFinish`
says that it gets through with what it does, and `CanTake` that it comes to take up a command: both
by steps of its own and of the workers, with nothing more from the client.
-/

namespace Lusbip

open Lib.Transition

/-- The client has no part in the action. -/
def Action.Inner : Action → Prop
  | .submit _ | .unlink _ _ | .importRequest => False
  | _ => True

theorem Sent.map_eq_full {α β : Type} {f : α → β} {s : Sent α} (h : s.map f = .full) :
    s = .full := by
  cases s with
  | full => rfl
  | sent x => cases h
  | closed => cases h

theorem Sent.ignoring_eq_none {α : Type} {s : Sent α} {old : α} (h : s.ignoring old = none) :
    s = .full := by
  cases s with
  | full => rfl
  | sent x => cases h
  | closed => cases h

namespace InWorker

variable {w w' : InWorker}

/-- What has to go before the queue is empty. -/
def backlog (w : InWorker) : Nat := 2 * w.queue.length + if w.phase = .opening then 1 else 0

theorem settle_backlog (w : InWorker) : w.settle.backlog = 2 * w.queue.length := by
  have hon : GoesOn True w w.settle := settle_goesOn rfl
  rw [backlog, if_neg hon.opened, settle_queue, Nat.add_zero]

/-- **A worker that has commands in its queue takes one**, once its endpoint is open. -/
theorem take_command (hp : w.phase ≠ .stopped) (hq : w.queue ≠ []) :
    ∃ move w' events, (∀ sender, move ≠ .flushSent sender) ∧
      (∀ result, move ≠ .barrierResult result) ∧ w.step move = some (w', events) ∧
      w'.backlog < w.backlog := by
  obtain ⟨command, queue, hcons⟩ := List.exists_cons_of_ne_nil hq
  have hbacklog : 2 * queue.length < w.backlog := by
    rw [backlog, hcons, List.length_cons]
    omega
  have htake : ∀ v : InWorker, w.receive = some v.settle → v.queue = queue →
      ∃ move w' events, (∀ sender, move ≠ .flushSent sender) ∧
        (∀ result, move ≠ .barrierResult result) ∧ w.step move = some (w', events) ∧
        w'.backlog < w.backlog := by
    intro v hv hqueue
    refine ⟨.command, v.settle, [], fun _ => InMove.noConfusion, fun _ => InMove.noConfusion, ?_,
      ?_⟩
    · rw [InWorker.step, hv]
      rfl
    · rw [settle_backlog, hqueue]
      exact hbacklog
  cases hphase : w.phase with
  | opening =>
    -- No command is taken yet, but the endpoint can be opened.
    refine ⟨.opened (some 1), { w with maxPacketSize := 1 }.settle, [],
      fun _ => InMove.noConfusion, fun _ => InMove.noConfusion, ?_, ?_⟩
    · simp only [InWorker.step, hphase, if_true]
    · rw [settle_backlog, backlog, if_pos hphase]
      exact Nat.lt_succ_self _
  | barrier seqnum len flush =>
    exact htake ({ w with queue := queue }.accept command)
      (by simp only [receive, hcons, hphase]) (by cases command <;> rfl)
  | reading =>
    exact htake ({ w with queue := queue }.acceptReading command)
      (by simp only [receive, hcons, hphase]) (by cases command <;> rfl)
  | idle =>
    exact htake ({ w with queue := queue }.acceptIdle command)
      (by simp only [receive, hcons, hphase]) (by cases command <;> rfl)
  | stopped => exact absurd hphase hp

end InWorker

namespace Connection

variable {prof : Profile} {c t : Connection} {a : Action} {ep : UInt8}

/-- The handler is at its `select!`, or has panicked. -/
def Through (c : Connection) : Prop := c.phase = .select ∨ c.phase = .panicked

def CanFinish (prof : Profile) (c : Connection) : Prop :=
  CanReach (step prof) (fun _ a => a.Inner) Through c

def CanTake (prof : Profile) (a : Action) (c : Connection) : Prop :=
  CanReach (step prof) (fun _ a => a.Inner) (fun c => ∃ t, step prof c a = some t) c

/-! ## What is on its way -/

/-- The OUT workers are running, and the flush that the handler waits for is at one of them. -/
structure Waits (c : Connection) : Prop where
  running : Running c
  apt : ∀ ep w, c.outs ep = some w → w.Apt
  device : ∀ command urb remaining awaiting, c.phase = .serving command urb remaining awaiting →
    c.device ≠ none
  flush : ∀ command urb remaining endpoint sender,
    c.phase = .serving command urb remaining (some (endpoint, sender)) →
      endpoint ∈ remaining ∧ ∃ w, c.outs endpoint = some w ∧ w.Minds sender

theorem waits_init : Waits {} :=
  ⟨running_init, fun _ _ h => (nomatch h), fun _ _ _ _ h => (nomatch h),
    fun _ _ _ _ _ h => (nomatch h)⟩

theorem Effect.device_eq (he : Effect prof c a t) (hi : ∀ outcome, a ≠ .importDone outcome) :
    t.device = c.device := by
  cases he with
  | importDone outcome hp => exact absurd rfl (hi outcome)
  | deliverIn event rest hp he => exact (deliverIn_outs c event rest).2.2.1
  | deliverOut event rest hp he => exact (deliverOut_ins c event rest).2.2.1
  | execute host command urb device hp hd =>
    exact (execute_frame prof c command urb device host).2.2.2.2
  | _ => rfl

/-- A flush that the handler waits for has just been sent, or was waited for before. -/
theorem Effect.awaiting (he : Effect prof c a t) {command : SubmitCommand} {urb : Urb}
    {remaining : List UInt8} {endpoint : UInt8} {sender : Oneshot}
    (hp : t.phase = .serving command urb remaining (some (endpoint, sender))) :
    (a = .controlFlush endpoint ∧ c.phase = .serving command urb remaining none ∧
        ∃ w : OutWorker, t.outs endpoint = some (w.push (.flush sender))) ∨
      c.phase = .serving command urb remaining (some (endpoint, sender)) := by
  cases he with
  | controlFlush command' urb' remaining' endpoint' w hp' hw =>
    obtain ⟨rfl, rfl, rfl, hawaiting⟩ := HandlerPhase.serving.inj hp
    cases hawaiting
    exact Or.inl ⟨rfl, hp', w, Function.update_self ..⟩
  | importRequest hp' => cases hp
  | importDone outcome hp' => cases (importDone_frame c outcome).2.2.symm.trans hp
  | deliverIn event rest hp' he =>
    cases hp'.symm.trans ((deliverIn_outs c event rest).2.2.2.symm.trans hp)
  | deliverOut event rest hp' he =>
    cases hp'.symm.trans ((deliverOut_ins c event rest).2.2.2.symm.trans hp)
  | controlFailed a command' urb' remaining' awaiting endpoint' err hp' ha => cases hp
  | controlPassed command' urb' remaining' endpoint' sender' w hp' hw hr => cases hp
  | execute host command' urb' device hp' hd =>
    rcases Connection.execute_phase prof c command' urb' device host with hphase | hphase
    · cases hphase.symm.trans hp
    · cases hphase.symm.trans hp
  | serve command' remaining' hp' hr hd hn => cases hp
  | shutdownSent endpoint' remaining' outs hp' htold => cases hp
  | _ => exact Or.inr hp

/-- What an OUT worker of the session has become. -/
inductive Stays (c t : Connection) (w : OutWorker) : OutWorker → Prop where
  | kept : Stays c t w w
  | told (command : BulkOutCommand) : Stays c t w (w.push command)
  | moved (w' : OutWorker) (move : OutMove) (events : List BulkOutEvent)
      (hs : w.step move = some (w', events)) (he : t.outEvents = c.outEvents ++ events) :
      Stays c t w w'

/-- OUT workers go when an import begins or ends, and stay otherwise. -/
theorem Effect.out_stays (he : Effect prof c a t) (hs : t.InSession)
    (hi : ∀ outcome, a ≠ .importDone outcome) {w : OutWorker} (hw : c.outs ep = some w) :
    ∃ w', t.outs ep = some w' ∧ Stays c t w w' := by
  have hupdate : ∀ (endpoint : UInt8) (v : OutWorker) (command : BulkOutCommand),
      c.outs endpoint = some v →
        ∃ w', Function.update c.outs endpoint (some (v.push command)) ep = some w' ∧
          Stays c t w w' := by
    intro endpoint v command hv
    by_cases hep : ep = endpoint
    · subst hep
      cases hv.symm.trans hw
      exact ⟨_, Function.update_self .., .told command⟩
    · exact ⟨w, by rw [Function.update_of_ne hep, hw], .kept⟩
  cases he with
  | submitOut command v hp hv hd hdir => exact hupdate _ v _ hv
  | unlinkOut header seqnum endpoint outs hp hseq htold =>
    rcases htold with rfl | ⟨v, hv, rfl⟩
    · exact ⟨w, hw, .kept⟩
    · exact hupdate _ v _ hv
  | importRequest hp => exact absurd rfl (hs _)
  | shutdownSent endpoint remaining outs hp htold => exact absurd rfl (hs _)
  | importDone outcome hp => exact absurd rfl (hi outcome)
  | deliverIn event rest hp he =>
    rw [(deliverIn_outs c event rest).1]
    exact ⟨w, hw, .kept⟩
  | deliverOut event rest hp he =>
    rw [(deliverOut_frame c event rest).2.1]
    exact ⟨w, hw, .kept⟩
  | controlFlush command urb remaining endpoint v hp hv => exact hupdate _ v _ hv
  | execute host command urb device hp hd =>
    rw [(execute_frame prof c command urb device host).2.1]
    exact ⟨w, hw, .kept⟩
  | inFlush endpoint v out o seqnum len hv ho hout hvp => exact hupdate _ o _ hout
  | outMove endpoint move v v' events hv hst =>
    by_cases hep : ep = endpoint
    · subst hep
      cases hv.symm.trans hw
      exact ⟨v', Function.update_self .., .moved v' move events hst rfl⟩
    · refine ⟨w, ?_, .kept⟩
      dsimp only
      rw [Function.update_of_ne hep, hw]
  | _ => exact ⟨w, hw, .kept⟩

/-- An OUT worker of the session minds its flushes, whatever happens. -/
theorem Effect.minds (he : Effect prof c a t) (hs : t.InSession) (hr : Running t)
    (hi : ∀ outcome, a ≠ .importDone outcome) {w : OutWorker} {sender : Oneshot}
    (hw : c.outs ep = some w) (hm : w.Minds sender) :
    ∃ w', t.outs ep = some w' ∧ w'.Minds sender := by
  obtain ⟨w', hw', hstays⟩ := he.out_stays hs hi hw
  refine ⟨w', hw', ?_⟩
  cases hstays with
  | kept => exact hm
  | told command => exact hm.push command
  | moved w' move events hst hevents =>
    exact hm.turn (OutWorker.step_turn hst) (hr hs ep w' hw').phase

theorem Effect.apt (he : Effect prof c a t) (h : ∀ ep w, c.outs ep = some w → w.Apt) :
    ∀ ep w, t.outs ep = some w → w.Apt := by
  intro ep w hw
  cases he.out hw with
  | started outcome ha hp => exact fun _ hp => nomatch hp
  | kept w hw => exact h ep w hw
  | told w command hw' hc => exact h ep w hw'
  | moved w w' move events hw' ha hs => exact OutWorker.step_apt hs

theorem Waits.step (h : Waits c) (hs : Connection.step prof c a = some t) : Waits t := by
  have he := step_effect hs
  have hrunning := h.running.step he
  refine ⟨hrunning, he.apt h.apt, ?_, ?_⟩
  · intro command urb remaining awaiting hp
    rcases he.serving hp with ⟨rfl, -⟩ | ⟨remaining', awaiting', hp', -⟩
    · rw [he.device_eq fun _ ha => nomatch ha]
      exact (he.dispatched rfl hp).1
    · rw [he.device_eq (he.ne_importDone (inSession_serving hp'))]
      exact h.device command urb remaining' awaiting' hp'
  · intro command urb remaining endpoint sender hp
    rcases he.awaiting hp with ⟨rfl, hp', w, hw⟩ | hp'
    · simp only [Connection.step, hp'] at hs
      split at hs
      · rename_i hm
        refine ⟨hm, _, hw, Or.inl ?_⟩
        rw [OutWorker.commands_push]
        exact List.mem_append_right _ (List.mem_singleton_self _)
      · cases hs
    · obtain ⟨hm, w, hw, hminds⟩ := h.flush command urb remaining endpoint sender hp'
      have hi := he.ne_importDone (inSession_serving hp')
      exact ⟨hm, he.minds (inSession_serving hp) hrunning hi hw hminds⟩

/-! ## Getting through -/

/-- What the OUT worker of the endpoint has before it. -/
def workAt (c : Connection) (ep : UInt8) : Nat := (c.outs ep).elim 0 OutWorker.work

theorem sendOut_full {command : BulkOutCommand} (h : c.sendOut ep command = .full) :
    ∃ w, c.outs ep = some w ∧ w.phase ≠ .stopped ∧ w.commands ≠ [] := by
  unfold sendOut at h
  split at h
  · cases h
  · rename_i w hw
    refine ⟨w, hw, ?_⟩
    unfold OutWorker.send at h
    split at h
    · cases h
    · rename_i hp
      split at h
      · cases h
      · rename_i hlen
        refine ⟨hp, fun hnil => hlen ?_⟩
        have hqueue := w.queue_sublist
        rw [hnil] at hqueue
        rw [List.sublist_nil.mp hqueue]
        exact Nat.succ_pos _

/-- A worker gets on, and nothing else changes. -/
structure Works (prof : Profile) (c : Connection) (ep : UInt8) (t : Connection) : Prop where
  step : ∃ a, a.Inner ∧ Connection.step prof c a = some t
  work : t.workAt ep < c.workAt ep
  phase : t.phase = c.phase
  ins : t.ins = c.ins
  outs : ∀ ep', ep' ≠ ep → t.outs ep' = c.outs ep'

theorem advance_out (ha : ∀ ep w, c.outs ep = some w → w.Apt) {w : OutWorker}
    (hw : c.outs ep = some w) (hp : w.phase ≠ .stopped) (hne : w.commands ≠ []) :
    ∃ t, Works prof c ep t := by
  obtain ⟨move, w', events, hs, hlt⟩ := (ha ep w hw).advance hp hne
  refine ⟨{ c with
    outs := Function.update c.outs ep (some w')
    outEvents := c.outEvents ++ events }, ⟨.outMove ep move, trivial, ?_⟩, ?_, rfl, rfl, ?_⟩
  · simp only [Connection.step, moveOut, hw, hs, Option.bind_eq_bind, Option.bind_some]
  · simp only [workAt, hw, Function.update_self, Option.elim_some]
    exact hlt
  · exact fun ep' hep => Function.update_of_ne hep _ _

/-- The OUT worker that the handler has to do with, and how much there is left to do. -/
def pace (c : Connection) : Nat ×ₗ Nat :=
  match c.phase with
  | .serving _ _ remaining (some (endpoint, _)) => toLex (2 * remaining.length, c.workAt endpoint)
  | .serving _ _ remaining none => toLex (2 * remaining.length + 1, c.workAt (remaining.headD 0))
  | .importing remaining => toLex (2 * remaining.length, c.workAt (remaining.headD 0))
  | _ => toLex (0, 0)

theorem filter_ne_length_lt {endpoint : UInt8} {remaining : List UInt8} (h : endpoint ∈ remaining) :
    (remaining.filter (· ≠ endpoint)).length < remaining.length := by
  refine List.length_filter_lt_length_iff_exists.mpr ⟨endpoint, h, ?_⟩
  simp

/-- The next step of a handler that waits. -/
def Proceeds (prof : Profile) (c : Connection) : Prop :=
  ∃ a t, a.Inner ∧ Connection.step prof c a = some t ∧ (Through t ∨ t.pace < c.pace)

theorem Works.proceeds (h : Works prof c ep t) (n : Nat)
    (hc : c.pace = toLex (n, c.workAt ep)) (ht : t.pace = toLex (n, t.workAt ep)) :
    Proceeds prof c := by
  obtain ⟨a, hinner, hs⟩ := h.step
  refine ⟨a, t, hinner, hs, Or.inr ?_⟩
  rw [hc, ht]
  exact Prod.Lex.toLex_lt_toLex.mpr (Or.inr ⟨rfl, h.work⟩)

/-- Before a URB of endpoint 0, with no flush under way. -/
theorem Waits.proceeds_flush (h : Waits c) {command : SubmitCommand} {urb : Urb}
    {remaining : List UInt8} (hp : c.phase = .serving command urb remaining none) :
    Proceeds prof c := by
  have hc : c.pace = toLex (2 * remaining.length + 1, c.workAt (remaining.headD 0)) := by
    simp only [pace, hp]
  cases remaining with
  | nil =>
    obtain ⟨device, hd⟩ := Option.ne_none_iff_exists'.mp (h.device command urb [] none hp)
    refine ⟨.execute .disconnected, c.execute prof command urb device .disconnected, trivial, ?_,
      Or.inl (Connection.execute_phase prof c command urb device .disconnected)⟩
    simp only [Connection.step, hp, hd, Option.map_some]
  | cons endpoint rest =>
    have hstep : Connection.step prof c (.controlFlush endpoint) =
        c.controlFlush command urb (endpoint :: rest) endpoint := by
      simp only [Connection.step, hp, List.mem_cons_self, if_true]
    cases hsend : c.sendOut endpoint (.flush ⟨c.nextReply, c.clock⟩) with
    | sent u =>
      simp only [controlFlush, hsend] at hstep
      refine ⟨.controlFlush endpoint, _, trivial, hstep, Or.inr ?_⟩
      rw [hc]
      exact Prod.Lex.toLex_lt_toLex.mpr (Or.inl (Nat.lt_succ_self _))
    | closed =>
      simp only [controlFlush, hsend] at hstep
      exact ⟨.controlFlush endpoint, _, trivial, hstep, Or.inl (Or.inl rfl)⟩
    | full =>
      -- The handler waits for room, and a full queue is one that the worker can take from.
      obtain ⟨w, hw, hrun, hne⟩ := sendOut_full hsend
      obtain ⟨t, ht⟩ := advance_out h.apt hw hrun hne
      refine ht.proceeds _ hc ?_
      simp only [pace, ht.phase, hp, List.headD_cons]

/-- And while one is. -/
theorem Waits.proceeds_result (h : Waits c) {command : SubmitCommand} {urb : Urb}
    {remaining : List UInt8} {endpoint : UInt8} {sender : Oneshot}
    (hp : c.phase = .serving command urb remaining (some (endpoint, sender))) :
    Proceeds prof c := by
  have hc : c.pace = toLex (2 * remaining.length, c.workAt endpoint) := by
    simp only [pace, hp]
  obtain ⟨hm, w, hw, hminds⟩ := h.flush command urb remaining endpoint sender hp
  have hrun := (h.running (inSession_serving hp) endpoint w hw).phase
  rcases hminds with hflush | ⟨result, hanswer⟩
  · -- The worker has yet to come to the flush, and gets on with what is before it.
    obtain ⟨t, ht⟩ := advance_out h.apt hw hrun (List.ne_nil_of_mem hflush)
    refine ht.proceeds _ hc ?_
    simp only [pace, ht.phase, hp]
  · have hsome : (w.answers.lookup sender).isSome = true :=
      List.lookup_isSome_iff.mpr ⟨_, hanswer, beq_self_eq_true _⟩
    obtain ⟨answer, hlookup⟩ := Option.isSome_iff_exists.mp hsome
    have hstep : Connection.step prof c .controlResult =
        some (c.controlBarrier command urb remaining endpoint answer) := by
      simp only [Connection.step, hp, hw, OutWorker.flushResult, hlookup, Option.bind_eq_bind,
        Option.bind_some]
    refine ⟨.controlResult, _, trivial, hstep, ?_⟩
    cases answer with
    | error err => exact Or.inl (Or.inl rfl)
    | ok u =>
      have hlt := filter_ne_length_lt hm
      refine Or.inr ?_
      rw [hc]
      exact Prod.Lex.toLex_lt_toLex.mpr (Or.inl (by dsimp only; omega))

/-- Before a device is imported. -/
theorem Waits.proceeds_import (h : Waits c) {remaining : List UInt8}
    (hp : c.phase = .importing remaining) : Proceeds prof c := by
  have hc : c.pace = toLex (2 * remaining.length, c.workAt (remaining.headD 0)) := by
    simp only [pace, hp]
  cases remaining with
  | nil =>
    refine ⟨.importDone .refused, c.importDone .refused, trivial, ?_,
      Or.inl (Or.inl (importDone_frame c .refused).2.2)⟩
    simp only [Connection.step, hp]
  | cons endpoint rest =>
    have hlt := @filter_ne_length_lt endpoint (endpoint :: rest) List.mem_cons_self
    have hphase : ∀ t : Connection,
        t.phase = .importing ((endpoint :: rest).filter (· ≠ endpoint)) → t.pace < c.pace := by
      intro t ht
      have hpace : t.pace = toLex (2 * ((endpoint :: rest).filter (· ≠ endpoint)).length,
          t.workAt (((endpoint :: rest).filter (· ≠ endpoint)).headD 0)) := by
        simp only [pace, ht]
      rw [hc, hpace]
      exact Prod.Lex.toLex_lt_toLex.mpr (Or.inl (by dsimp only; omega))
    have hstep : Connection.step prof c (.shutdownSent endpoint) =
        c.shutdownSent (endpoint :: rest) endpoint := by
      simp only [Connection.step, hp, List.mem_cons_self, if_true]
    cases hsend : sendOut { c with
        phase := .importing ((endpoint :: rest).filter (· ≠ endpoint))
        nextReply := c.nextReply + 1 } endpoint (.shutdown ⟨c.nextReply, c.clock⟩) with
    | sent u =>
      simp only [Connection.shutdownSent, hsend, Sent.ignoring] at hstep
      obtain ⟨w, -, hu⟩ := sendOut_sent hsend
      exact ⟨.shutdownSent endpoint, u, trivial, hstep, Or.inr (hphase u (by rw [hu]))⟩
    | closed =>
      simp only [Connection.shutdownSent, hsend, Sent.ignoring] at hstep
      exact ⟨.shutdownSent endpoint, _, trivial, hstep, Or.inr (hphase _ rfl)⟩
    | full =>
      obtain ⟨w, hw, hrun, hne⟩ := sendOut_full hsend
      obtain ⟨t, ht⟩ := advance_out h.apt hw hrun hne
      refine ht.proceeds _ hc ?_
      simp only [pace, ht.phase, hp, List.headD_cons]

/-- **The handler gets through with what it does.** -/
theorem Waits.canFinish (h : Waits c) : c.CanFinish prof := by
  -- One phase after the other: the pace falls until the handler is through.
  refine canReach_of_variant (I := Waits) pace ?_ c h
  intro c h
  have hnext : Proceeds prof c → Through c ∨ ∃ a t, a.Inner ∧
      Connection.step prof c a = some t ∧ (Through t ∨ Waits t ∧ t.pace < c.pace) := by
    rintro ⟨a, t, hinner, hs, hthrough | hlt⟩
    · exact Or.inr ⟨a, t, hinner, hs, Or.inl hthrough⟩
    · exact Or.inr ⟨a, t, hinner, hs, Or.inr ⟨h.step hs, hlt⟩⟩
  cases hp : c.phase with
  | select => exact Or.inl (Or.inl hp)
  | panicked => exact Or.inl (Or.inr hp)
  | serving command urb remaining awaiting =>
    cases awaiting with
    | none => exact hnext (h.proceeds_flush hp)
    | some flush => exact hnext (h.proceeds_result hp)
  | importing remaining => exact hnext (h.proceeds_import hp)

/-! ## Taking up a command -/

/-- What the workers of an endpoint have before them. -/
def loadAt (c : Connection) (ep : UInt8) : Nat :=
  (c.ins ep).elim 0 InWorker.backlog + c.workAt ep

def load (c : Connection) : Nat := ∑ ep, c.loadAt ep

theorem load_lt (hother : ∀ ep', ep' ≠ ep → t.loadAt ep' = c.loadAt ep')
    (hlt : t.loadAt ep < c.loadAt ep) : t.load < c.load := by
  refine Finset.sum_lt_sum (fun ep' _ => ?_) ⟨ep, Finset.mem_univ ep, hlt⟩
  by_cases hep : ep' = ep
  · rw [hep]
    exact hlt.le
  · rw [hother ep' hep]

/-- A worker that a command can be blocked by. -/
inductive Busy (c : Connection) : Prop where
  | ins (ep : UInt8) (w : InWorker) (hw : c.ins ep = some w) (hp : w.phase ≠ .stopped)
      (hq : w.queue ≠ []) : Busy c
  | outs (ep : UInt8) (w : OutWorker) (hw : c.outs ep = some w) (hp : w.phase ≠ .stopped)
      (hq : w.commands ≠ []) : Busy c

theorem sendIn_full {command : BulkInCommand} (h : c.sendIn ep command = .full) :
    ∃ w, c.ins ep = some w ∧ w.phase ≠ .stopped ∧ w.queue ≠ [] := by
  unfold sendIn at h
  split at h
  · cases h
  · rename_i w hw
    refine ⟨w, hw, ?_⟩
    unfold InWorker.send at h
    split at h
    · cases h
    · rename_i hp
      split at h
      · cases h
      · rename_i hlen
        refine ⟨hp, fun hnil => hlen ?_⟩
        rw [hnil]
        exact Nat.succ_pos _

theorem submit_blocked {command : SubmitCommand} (h : c.submit command = none) : c.Busy := by
  unfold submit at h
  split at h
  · cases h
  · rename_i device hd
    dsimp only at h
    split at h
    · cases h
    · rename_i hin
      unfold Connection.submitIn at hin
      dsimp only at hin
      split at hin
      · obtain ⟨w, hw, hp, hq⟩ := sendIn_full (Sent.map_eq_full hin)
        exact .ins _ w hw hp hq
      · cases hin
    · split at h
      · cases h
      · rename_i hout
        unfold Connection.submitOut at hout
        dsimp only at hout
        split at hout
        · cases hout
        · split at hout
          · obtain ⟨w, hw, hp, hq⟩ := sendOut_full (Sent.map_eq_full hout)
            exact .outs _ w hw hp hq
          · cases hout
      · cases h

theorem unlink_blocked {header : UsbIpHeaderBasic} {unlinkSeqnum : UInt32}
    (h : c.unlink header unlinkSeqnum = none) : c.Busy := by
  unfold unlink at h
  dsimp only at h
  split at h
  · obtain ⟨w, hw, hp, hq⟩ := sendIn_full (Sent.ignoring_eq_none (Option.map_eq_none_iff.mp h))
    exact .ins _ w hw hp hq
  · split at h
    · obtain ⟨w, hw, hp, hq⟩ := sendOut_full (Sent.ignoring_eq_none (Option.map_eq_none_iff.mp h))
      exact .outs _ w hw hp hq
    · cases h

/-- A command is taken up, or is blocked by a worker that has something to do. -/
theorem takes_or_busy (hp : c.phase = .select) (ha : ¬ a.Inner) :
    (∃ t, Connection.step prof c a = some t) ∨ c.Busy := by
  cases a with
  | submit command =>
    cases hs : c.submit command with
    | none => exact Or.inr (submit_blocked hs)
    | some t => exact Or.inl ⟨t, by simp only [Connection.step, hp, hs]⟩
  | unlink header unlinkSeqnum =>
    cases hs : c.unlink header unlinkSeqnum with
    | none => exact Or.inr (unlink_blocked hs)
    | some t => exact Or.inl ⟨t, by simp only [Connection.step, hp, hs]⟩
  | importRequest => exact Or.inl ⟨c.importRequest, by simp only [Connection.step, hp]⟩
  | _ => exact absurd trivial ha

theorem Busy.advance (h : c.Busy) (ha : ∀ ep w, c.outs ep = some w → w.Apt) :
    ∃ a t, a.Inner ∧ Connection.step prof c a = some t ∧ t.phase = c.phase ∧ t.load < c.load := by
  cases h with
  | ins ep w hw hp hq =>
    obtain ⟨move, w', events, hflush, hbarrier, hs, hlt⟩ := InWorker.take_command hp hq
    refine ⟨move.action ep, { c with
      ins := Function.update c.ins ep (some w')
      inEvents := c.inEvents ++ events }, ?_, ?_, rfl, @load_lt c _ ep ?_ ?_⟩
    · cases move <;> exact trivial
    · cases move with
      | flushSent sender => exact absurd rfl (hflush sender)
      | barrierResult result => exact absurd rfl (hbarrier result)
      | _ => simp only [InMove.action, Connection.step, moveIn, hw, hs, Option.bind_eq_bind,
          Option.bind_some]
    · intro ep' hep
      simp only [loadAt, workAt, Function.update_of_ne hep]
    · simp only [loadAt, workAt, hw, Function.update_self, Option.elim_some]
      exact Nat.add_lt_add_right hlt _
  | outs ep w hw hp hq =>
    obtain ⟨t, ⟨a, hinner, hs⟩, hwork, hphase, hins, houts⟩ := advance_out ha hw hp hq
    refine ⟨a, t, hinner, hs, hphase, @load_lt c t ep (fun ep' hep => ?_) ?_⟩
    · rw [loadAt, loadAt, workAt, workAt, hins, houts ep' hep]
    · rw [loadAt, loadAt, hins]
      exact Nat.add_lt_add_left hwork _

/-- **At its `select!` the handler comes to take up any command.** -/
theorem Waits.canTake (h : Waits c) (hp : c.phase = .select) (ha : ¬ a.Inner) :
    c.CanTake prof a := by
  refine canReach_of_variant
    (I := fun c => c.phase = .select ∧ ∀ ep w, c.outs ep = some w → w.Apt) load ?_ c ⟨hp, h.apt⟩
  rintro c ⟨hp, hapt⟩
  rcases @takes_or_busy prof c a hp ha with htakes | hbusy
  · exact Or.inl htakes
  · -- Only a full queue is in the way, and its worker makes the load lighter.
    obtain ⟨b, t, hinner, hs, hphase, hlt⟩ := @Busy.advance prof c hbusy hapt
    exact Or.inr ⟨b, t, hinner, hs,
      Or.inr ⟨⟨hphase.trans hp, (step_effect hs).apt hapt⟩, hlt⟩⟩

end Connection
end Lusbip
