import Lusbip.Session.BulkInLine
import Lusbip.Session.Waiting

/-!
# URBs in hand

A URB that a worker has taken is answered by an event of the worker, and the handler writes the
reply when it takes the event off its queue. `InHand` says that the URB is on this way: a worker has
it that can answer it, or the event is queued.

A URB stays in hand until it is answered, by a `RET_SUBMIT` or by a `RET_UNLINK` with status 0,
unless an action loses it. `Spares` names those that do: the number is used again meanwhile, the
workers are aborted by an import, the endpoint cannot be opened, and an event is taken for one that
was unlinked, or for one of another URB. A worker that panics loses all that it has, so `Receives`
keeps the reads that there is no buffer for from every worker with its endpoint open.
-/

namespace Lusbip

open Lib.Transition Lib.Withdrawals

/-- There is a buffer for the read that the command asks for. -/
def BulkInCommand.ReadableWith (maxPacketSize : Nat) : BulkInCommand → Prop
  | .submit request => Readable request.transferBufferLength maxPacketSize
  | .unlink _ => True

instance (maxPacketSize : Nat) : ∀ command : BulkInCommand,
    Decidable (command.ReadableWith maxPacketSize)
  | .submit request =>
      inferInstanceAs (Decidable (Readable request.transferBufferLength maxPacketSize))
  | .unlink _ => isTrue trivial

namespace Connection

variable {prof : Profile} {c t : Connection} {a : Action} {k : UInt32} {urb : Urb} {ep : UInt8}

/-- The URB is with a worker that can answer it, or the event that answers it is queued. -/
inductive InHand (c : Connection) (k : UInt32) (urb : Urb) : Prop where
  | inWorker (w : InWorker) (hw : c.ins urb.ep = some w) (h : w.CanAnswer k urb)
  | inEvent (event : BulkInEvent) (hm : event ∈ c.inEvents) (hk : event.seqnum = k)
      (hu : event.urb = urb)
  | outWorker (w : OutWorker) (hw : c.outs urb.ep = some w) (h : w.CanAnswer k urb)
  | outEvent (event : BulkOutEvent) (hm : event ∈ c.outEvents) (hk : event.seqnum = k)
      (hu : event.urb = urb) (hg : event.generation = c.bulkOutGeneration)

/-- The action does not lose the URB. -/
def Spares (c : Connection) (k : UInt32) (urb : Urb) : Action → Prop
  | .submit command => command.header.seqnum ≠ k
  | .importRequest => ∃ event ∈ c.inEvents, event.seqnum = k ∧ event.urb = urb
  | .inOpened endpoint maxPacketSize => endpoint = urb.ep → maxPacketSize ≠ none
  | .deliverIn => ∀ event ∈ c.inEvents.head?, event.seqnum = k → event.urb = urb →
      k ∉ c.cancelledBulkInSeqnums
  | .deliverOut => ∀ event ∈ c.outEvents.head?, event.generation = c.bulkOutGeneration →
      event.seqnum = k → k ∈ c.pendingBulkOut → event.urb = urb
  | _ => True

instance (c : Connection) (k : UInt32) (urb : Urb) (a : Action) : Decidable (c.Spares k urb a) :=
  match a with
  | .submit command => inferInstanceAs (Decidable (command.header.seqnum ≠ k))
  | .importRequest =>
      inferInstanceAs (Decidable (∃ event ∈ c.inEvents, event.seqnum = k ∧ event.urb = urb))
  | .inOpened endpoint maxPacketSize =>
      inferInstanceAs (Decidable (endpoint = urb.ep → maxPacketSize ≠ none))
  | .deliverIn => inferInstanceAs (Decidable (∀ event ∈ c.inEvents.head?, event.seqnum = k →
      event.urb = urb → k ∉ c.cancelledBulkInSeqnums))
  | .deliverOut => inferInstanceAs (Decidable (∀ event ∈ c.outEvents.head?,
      event.generation = c.bulkOutGeneration → event.seqnum = k → k ∈ c.pendingBulkOut →
        event.urb = urb))
  | .unlink _ _ | .shutdownSent _ | .importDone _ | .controlFlush _ | .controlResult | .execute _
  | .inFlush _ | .inBarrier _ | .inCommand _ | .inCompletion _ _ | .outMove _ _ => isTrue trivial

/-- There is a buffer for every read that a worker gets when its endpoint is open, or has in
    its queue when it opens. -/
def Receives (c : Connection) : Action → Prop
  | .submit command => command.header.direction = 1 → ∀ w ∈ c.ins (realEp command.header),
      w.phase = .opening ∨ w.phase = .stopped ∨
        Readable command.transferBufferLength w.maxPacketSize
  | .inOpened endpoint maxPacketSize => ∀ size ∈ maxPacketSize, ∀ w ∈ c.ins endpoint,
      ∀ command ∈ w.queue, command.ReadableWith size
  | _ => True

instance (c : Connection) : ∀ a : Action, Decidable (c.Receives a)
  | .submit command => inferInstanceAs (Decidable (command.header.direction = 1 →
      ∀ w ∈ c.ins (realEp command.header), w.phase = .opening ∨ w.phase = .stopped ∨
        Readable command.transferBufferLength w.maxPacketSize))
  | .inOpened endpoint maxPacketSize =>
      have inner (size : Nat) : Decidable (∀ w ∈ c.ins endpoint,
          ∀ command ∈ w.queue, command.ReadableWith size) := inferInstance
      @Option.decidableForallMem _ _ inner maxPacketSize
  | .unlink _ _ | .importRequest | .shutdownSent _ | .importDone _ | .deliverIn | .deliverOut
  | .controlFlush _ | .controlResult | .execute _ | .inFlush _ | .inBarrier _
  | .inCommand _ | .inCompletion _ _ | .outMove _ _ => isTrue trivial

/-- A reply that the step writes answers the URB. -/
def Replied (c t : Connection) (k : UInt32) (urb : Urb) : Prop :=
  (t.wire.drop c.wire.length).any (Reply.answers k urb) = true

theorem replied_of_wire {reply : Reply} (hw : t.wire = c.wire ++ [reply])
    (ha : reply.answers k urb = true) : Replied c t k urb := by
  rw [Replied, hw, List.drop_left, List.any_cons, ha, Bool.true_or]

theorem replied_of_unlink {n : Nat} {header : UsbIpHeaderBasic}
    (hw : t.wire = c.wire ++ [.unlink n k (handleUsbipCmdUnlink header true)]) :
    Replied c t k urb :=
  replied_of_wire hw (decide_eq_true ⟨rfl, (handleUsbipCmdUnlink_status header true).mpr rfl⟩)

/-- A bulk-IN URB that is recorded is unlinked with status 0. -/
theorem step_unlinkIn_wire {header : UsbIpHeaderBasic}
    (h : Connection.step prof c (.unlink header k) = some t) (hs : c.bulkInSeqnums k = some ep) :
    t.wire = c.wire ++ [.unlink c.session k (handleUsbipCmdUnlink header true)] := by
  cases hp : c.phase with
  | select =>
    simp only [Connection.step, hp, Connection.unlink, hs] at h
    obtain ⟨u, hu, rfl⟩ := Option.map_eq_some_iff.mp h
    obtain ⟨ins, -, rfl⟩ := toldIn_of_ignoring hu
    rfl
  | _ => simp [Connection.step, hp] at h

/-! ## What stays -/

/-- A session ends with an import. -/
theorem Effect.leaves (he : Effect prof c a t) (hc : c.InSession) (ht : ¬ t.InSession) :
    a = .importRequest ∧ t = c.importRequest := by
  cases he with
  | importRequest hp => exact ⟨rfl, rfl⟩
  | importDone outcome hp => exact absurd hp (hc [])
  | shutdownSent endpoint remaining outs hp htold => exact absurd hp (hc remaining)
  | deliverIn event rest hp he =>
    exact absurd (inSession_select ((deliverIn_outs c event rest).2.2.2.trans hp)) ht
  | deliverOut event rest hp he =>
    exact absurd (inSession_select ((deliverOut_ins c event rest).2.2.2.trans hp)) ht
  | serve command remaining hp hr hd hn => exact absurd (inSession_serving rfl) ht
  | controlFlush command urb remaining endpoint w hp hw => exact absurd (inSession_serving rfl) ht
  | controlFailed a command urb remaining awaiting endpoint err hp ha =>
    exact absurd (inSession_select rfl) ht
  | controlPassed command urb remaining endpoint sender w hp hw hr =>
    exact absurd (inSession_serving rfl) ht
  | execute host command urb device hp hd =>
    refine absurd (fun remaining hi => ?_) ht
    rcases Connection.execute_phase prof c command urb device host with hphase | hphase
    · cases hphase.symm.trans hi
    · cases hphase.symm.trans hi
  | _ => exact absurd hc ht

/-- An event stays in its queue until the handler takes it off. -/
theorem Effect.inEvent_stays (he : Effect prof c a t) {event : BulkInEvent}
    (hm : event ∈ c.inEvents) : event ∈ t.inEvents ∨
      a = .deliverIn ∧ ∃ rest, c.inEvents = event :: rest ∧ t = c.deliverIn event rest := by
  cases he with
  | importDone outcome hp =>
    rw [(importDone_frame c outcome).1]
    exact Or.inl hm
  | deliverIn event' rest hp he =>
    rw [he] at hm
    rcases List.mem_cons.mp hm with rfl | hm
    · exact Or.inr ⟨rfl, rest, he, rfl⟩
    · rw [(deliverIn_frame c event' rest).1]
      exact Or.inl hm
  | deliverOut event' rest hp he =>
    rw [(deliverOut_ins c event' rest).2.1]
    exact Or.inl hm
  | execute host command urb device hp hd =>
    rw [(execute_frame prof c command urb device host).2.2.1]
    exact Or.inl hm
  | inMove endpoint move w w' events hw hs hf hb => exact Or.inl (List.mem_append_left _ hm)
  | _ => exact Or.inl hm

theorem Effect.outEvent_stays (he : Effect prof c a t) {event : BulkOutEvent}
    (hm : event ∈ c.outEvents) : event ∈ t.outEvents ∨
      a = .deliverOut ∧ ∃ rest, c.outEvents = event :: rest ∧ t = c.deliverOut event rest := by
  cases he with
  | importDone outcome hp =>
    rw [(importDone_frame c outcome).2.1]
    exact Or.inl hm
  | deliverIn event' rest hp he =>
    rw [(deliverIn_outs c event' rest).2.1]
    exact Or.inl hm
  | deliverOut event' rest hp he =>
    rw [he] at hm
    rcases List.mem_cons.mp hm with rfl | hm
    · exact Or.inr ⟨rfl, rest, he, rfl⟩
    · rw [(deliverOut_frame c event' rest).1]
      exact Or.inl hm
  | execute host command urb device hp hd =>
    rw [(execute_frame prof c command urb device host).2.2.2.1]
    exact Or.inl hm
  | outMove endpoint move w w' events hw hs => exact Or.inl (List.mem_append_left _ hm)
  | _ => exact Or.inl hm

/-- The event of an OUT URB that is pending is written, whoever's it is. -/
theorem replied_deliverOut {event : BulkOutEvent} {rest : List BulkOutEvent}
    (hresponse : event.response.submitSeqnum? = some event.seqnum)
    (hg : event.generation = c.bulkOutGeneration) (hp : event.seqnum ∈ c.pendingBulkOut) :
    Replied c (c.deliverOut event rest) event.seqnum event.urb := by
  exact replied_of_wire (deliverOut_written rest hg hp) (decide_eq_true ⟨rfl, hresponse⟩)

/-- An OUT URB stays pending until it is answered. -/
theorem Effect.pending (he : Effect prof c a t) (hr : Routed c) (hs : c.InSession)
    (hk : k ∈ c.pendingBulkOut) (hspares : c.Spares k urb a) :
    k ∈ t.pendingBulkOut ∨ Replied c t k urb := by
  cases he with
  | submitOut command w hp hw hd hdir => exact Or.inl (Finset.mem_insert_of_mem hk)
  | unlinkOut header seqnum endpoint outs hp hseq htold =>
    by_cases heq : k = seqnum
    · subst heq
      exact Or.inr (@replied_of_unlink c _ k urb c.session header (by simp [hk]))
    · exact Or.inl (Finset.mem_erase_of_ne_of_mem heq hk)
  | importDone outcome hp => exact absurd hp (hs [])
  | deliverIn event rest hp he =>
    rw [deliverIn_eq]
    exact Or.inl hk
  | deliverOut event rest hp he =>
    by_cases hg : event.generation = c.bulkOutGeneration
    · by_cases heq : event.seqnum = k
      · have hurb := hspares event (by rw [he]; rfl) hg heq hk
        subst heq hurb
        have hm : event ∈ c.outEvents := he ▸ List.mem_cons_self
        exact Or.inr (replied_deliverOut (hr.outEvents event hm).2 hg hk)
      · rw [deliverOut_eq]
        split
        · exact Or.inl (Finset.mem_erase_of_ne_of_mem (Ne.symm heq) hk)
        · exact Or.inl hk
    · have hwrite : ¬ shouldWriteBulkOutResponse c.bulkOutGeneration event.generation = true :=
        fun h => hg (of_decide_eq_true h).symm
      rw [deliverOut_eq, if_neg hwrite]
      exact Or.inl hk
  | execute host command urb device hp hd =>
    rw [(execute_records prof c command urb device host).2.1]
    exact Or.inl hk
  | _ => exact Or.inl hk

/-! ## Where a URB stands -/

section Able

variable {w w' : InWorker}

/-- A worker is able still after a move, unless it could not open its endpoint. -/
theorem able_moved {move : InMove} {events : List BulkInEvent} (hf : w.Fit) (ha : w.Able)
    (hs : w.step move = some (w', events)) (hp' : w'.phase ≠ .stopped ∨ move ≠ .opened none)
    (hopened : ∀ size, move = .opened (some size) →
      ∀ command ∈ w.queue, command.ReadableWith size) : w'.Able := by
  by_cases hp : w.phase = .opening
  · -- Its only move is to have the endpoint opened, with nothing on file yet.
    cases InWorker.step_turn hs with
    | opened size hopening =>
      have hon : InWorker.GoesOn True { w with maxPacketSize := size }
          { w with maxPacketSize := size }.settle := InWorker.settle_goesOn rfl
      refine ⟨hon.running trivial, Or.inr fun request hr => ?_⟩
      rw [hon.maxPacketSize]
      rcases (InWorker.step_moves hs).holds request hr with hm | ⟨seqnum, hfiled⟩
      · exact hopened size rfl _ hm
      · cases (hf.opening hp seqnum).symm.trans hfiled
    | unopened hopening => exact (hp'.elim (fun h => h rfl) fun h => h rfl).elim
    | received v hv => cases (InWorker.receive_eq_none (Or.inl hp)).symm.trans hv
    | flushing reply seqnum len hphase => cases hp.symm.trans hphase
    | passed result seqnum len flush hphase => cases hp.symm.trans hphase
    | completed result hphase => cases hp.symm.trans hphase
  · exact ha.step hf hp hs

/-- A command that the worker can read for leaves it as able as it was. -/
theorem able_push {command : BulkInCommand} (ha : w.Able)
    (hc : w.phase = .opening ∨ command.ReadableWith w.maxPacketSize) : (w.push command).Able := by
  refine ⟨ha.running, ?_⟩
  rcases ha.readable with hopening | hreadable
  · exact Or.inl hopening
  refine hc.imp id fun hc request hr => ?_
  rcases hr with hm | hfiled
  · rcases List.mem_append.mp hm with hm | hm
    · exact hreadable request (Or.inl hm)
    · cases List.mem_singleton.mp hm
      exact hc
  · exact hreadable request (Or.inr hfiled)

/-- The commands that are sent to an able worker are such. -/
theorem TellsIn.readable {command : BulkInCommand} (h : TellsIn c a ep command)
    (hreceives : c.Receives a) (hw : c.ins ep = some w) (hp : w.phase ≠ .stopped) :
    w.phase = .opening ∨ command.ReadableWith w.maxPacketSize := by
  cases h with
  | submit command hselect hdir =>
    exact (hreceives hdir w hw).imp id fun h => h.resolve_left hp
  | unlink header unlinkSeqnum endpoint hselect hseq => exact Or.inr trivial

end Able

/-- Every IN worker that has not ended is between two moves, and able. -/
structure AllFit (c : Connection) : Prop where
  fit : ∀ ep w, c.ins ep = some w → w.phase ≠ .stopped → w.Fit
  able : ∀ ep w, c.ins ep = some w → w.phase ≠ .stopped → w.Able

theorem allFit_init : AllFit {} := ⟨fun _ _ h => (nomatch h), fun _ _ h => (nomatch h)⟩

theorem AllFit.step (h : AllFit c) (hreceives : c.Receives a) (he : Effect prof c a t) :
    AllFit t := by
  -- A worker that moves has not stopped before.
  have hrunning : ∀ {w w' : InWorker} {move events}, w.step move = some (w', events) →
      w.phase ≠ .stopped := by
    intro w w' move events hs hstopped
    cases (InWorker.step_of_stopped hstopped move).symm.trans hs
  -- The sending of a barrier's flush is a move of the worker like any other.
  have hflush : ∀ {w : InWorker} {seqnum len} (sender : Oneshot),
      w.phase = .barrier seqnum len none → w.step (.flushSent sender) =
        some ({ w with phase := .barrier seqnum len (some sender) }, []) := by
    intro w seqnum len sender hp
    simp only [InWorker.step, hp]
  refine ⟨fun ep w hw hp => ?_, fun ep w hw hp => ?_⟩
  · cases he.in hw with
    | started device opens ha hp' w hw =>
      obtain ⟨-, rfl⟩ := startBulkInWorkers_eq_some.mp hw
      exact InWorker.fit_start _ _
    | kept w hw => exact h.fit ep w hw hp
    | told w command hw' hc => exact (h.fit ep w hw' hp).push command
    | flushing w seqnum len hw' ha hp' =>
      have hs := hflush ⟨c.nextReply, c.clock⟩ hp'
      exact (h.fit ep w hw' (hrunning hs)).step hs hp
    | moved w w' move events hw' ha hs hb => exact (h.fit ep w hw' (hrunning hs)).step hs hp
  · cases he.in hw with
    | started device opens ha hp' w hw =>
      obtain ⟨-, rfl⟩ := startBulkInWorkers_eq_some.mp hw
      exact ⟨hp, Or.inl rfl⟩
    | kept w hw => exact h.able ep w hw hp
    | told w command hw' hc =>
      exact able_push (h.able ep w hw' hp) (hc.readable hreceives hw' hp)
    | flushing w seqnum len hw' ha hp' =>
      have hs := hflush ⟨c.nextReply, c.clock⟩ hp'
      have hrun := hrunning hs
      refine able_moved (h.fit ep w hw' hrun) (h.able ep w hw' hrun) hs (Or.inl hp) ?_
      intro size hsize
      cases hsize
    | moved w w' move events hw' ha hs hb =>
      have hrun := hrunning hs
      refine able_moved (h.fit ep w hw' hrun) (h.able ep w hw' hrun) hs (Or.inl hp) ?_
      intro size hsize
      subst hsize ha
      exact hreceives size rfl w hw'

/-- What keeps a URB in hand. -/
inductive Stands (c : Connection) (k : UInt32) (urb : Urb) : Prop where
  | inWorker (w : InWorker) (hs : c.InSession) (hw : c.ins urb.ep = some w)
      (hp : w.phase ≠ .stopped) (ho : w.Owes k urb)
  | inEvent (event : BulkInEvent) (hm : event ∈ c.inEvents) (hk : event.seqnum = k)
      (hu : event.urb = urb)
  | outWorker (w : OutWorker) (request : BulkOutRequest) (hs : c.InSession)
      (hw : c.outs urb.ep = some w) (hm : .submit request ∈ w.commands)
      (hk : request.header.seqnum = k) (hu : request.urb = urb)
      (hg : request.generation = c.bulkOutGeneration) (hp : k ∈ c.pendingBulkOut)
  | outEvent (event : BulkOutEvent) (hs : c.InSession) (hm : event ∈ c.outEvents)
      (hk : event.seqnum = k) (hu : event.urb = urb)
      (hg : event.generation = c.bulkOutGeneration) (hp : k ∈ c.pendingBulkOut)

/-- **What stands is in hand.** -/
theorem Stands.inHand (h : Stands c k urb) (hw : Waits c) (hf : AllFit c) : InHand c k urb := by
  cases h with
  | inWorker w hs hin hp ho =>
    exact .inWorker w hin ((hf.fit urb.ep w hin hp).canAnswer (hf.able urb.ep w hin hp) ho)
  | inEvent event hm hk hu => exact .inEvent event hm hk hu
  | outWorker w request hs hout hm hk hu hg hp =>
    refine .outWorker w hout ?_
    rw [← hk, ← hu]
    exact (hw.running hs _ w hout).canAnswer (hw.apt _ w hout) hm
  | outEvent event hs hm hk hu hg hp => exact .outEvent event hm hk hu hg

/-- With an import under way, only a bulk-IN event is left. -/
theorem stands_of_left (he : Effect prof c a t) (hc : c.InSession) (ht : ¬ t.InSession)
    (hspares : c.Spares k urb a) : Stands t k urb := by
  obtain ⟨rfl, rfl⟩ := he.leaves hc ht
  obtain ⟨event, hm, hk, hu⟩ := hspares
  exact .inEvent event hm hk hu

section Step

variable {w : InWorker}

/-- A command comes to a worker that owes an answer. -/
theorem owes_push {command : BulkInCommand} (ho : w.Owes k urb) (hk : command.seqnum ≠ k) :
    (w.push command).Owes k urb := by
  have hmark : command.mark k = [] := by
    cases command <;> exact if_neg hk
  rwa [InWorker.Owes, InWorker.word_push, hmark, List.append_nil]

theorem Stands.step_inWorker (hf : AllFit c) (hs : Connection.step prof c a = some t)
    (hspares : c.Spares k urb a) (hreceives : c.Receives a) (hc : c.InSession)
    (hw : c.ins urb.ep = some w) (hp : w.phase ≠ .stopped) (ho : w.Owes k urb) :
    Stands t k urb ∨ Replied c t k urb := by
  have he := step_effect hs
  by_cases ht : t.InSession
  · have hi := he.ne_importDone hc
    obtain ⟨w', hw'⟩ := he.in_stays hw ht hi
    cases he.in hw' with
    | started device opens hdone hp v hv => exact absurd hdone (hi _)
    | kept v hv =>
      cases hv.symm.trans hw
      exact Or.inl (.inWorker _ ht hw' hp ho)
    | told v command hv hc' =>
      cases hv.symm.trans hw
      -- Of the commands under the same number only an unlink is spared, and it is answered.
      by_cases hk : command.seqnum = k
      · generalize urb.ep = ep at hc'
        cases hc' with
        | submit command' hp hdir => exact absurd hk hspares
        | unlink header seqnum endpoint hp hseq =>
          cases (show seqnum = k from hk)
          exact Or.inr (replied_of_unlink (step_unlinkIn_wire hs hseq))
      · exact Or.inl (.inWorker _ ht hw' hp (owes_push ho hk))
    | flushing v seqnum len hv hflush hp =>
      cases hv.symm.trans hw
      exact Or.inl (.inWorker _ ht hw' (fun h => nomatch h) ho)
    | moved v v' move events hv hmove hst hb =>
      cases hv.symm.trans hw
      have hfit := hf.fit urb.ep w hw hp
      have hable := able_moved hfit (hf.able urb.ep w hw hp) hst
        (Or.inr fun hnone => by
          subst hnone hmove
          exact hspares rfl rfl)
        (fun size hsize => by
          subst hsize hmove
          exact hreceives size rfl w hw)
      rcases (InWorker.step_serves hfit.onFile hst hable.running).owes hfit.onFile k urb ho with
        ho' | hanswer
      · exact Or.inl (.inWorker _ ht hw' hable.running ho')
      · obtain ⟨event, hm, hk, hu⟩ := hanswer
        refine Or.inl (.inEvent event ?_ hk hu)
        rw [he.moved_events hw hmove hst hb]
        exact List.mem_append_right _ hm
  · exact Or.inl (stands_of_left he hc ht hspares)

theorem Stands.step_inEvent (hr : Routed c) (he : Effect prof c a t) (hspares : c.Spares k urb a)
    {event : BulkInEvent} (hm : event ∈ c.inEvents) (hk : event.seqnum = k)
    (hu : event.urb = urb) : Stands t k urb ∨ Replied c t k urb := by
  rcases he.inEvent_stays hm with hm' | ⟨rfl, rest, hqueue, rfl⟩
  · exact Or.inl (.inEvent event hm' hk hu)
  · have hkept := hspares event (by rw [hqueue]; rfl) hk hu
    have hwrite : shouldWriteBulkInResponse c.cancelledBulkInSeqnums event.seqnum = true :=
      decide_eq_true (hk ▸ hkept)
    refine Or.inr (replied_of_wire (by rw [deliverIn_wire, if_pos hwrite]) ?_)
    exact decide_eq_true ⟨hu, hk ▸ (hr.inEvents event hm).2.2⟩

theorem Stands.step_outWorker (hr : Routed c) (hwaits : Waits c)
    (hs : Connection.step prof c a = some t) (hspares : c.Spares k urb a) {v : OutWorker}
    {request : BulkOutRequest} (hc : c.InSession) (hv : c.outs urb.ep = some v)
    (hm : .submit request ∈ v.commands) (hk : request.header.seqnum = k)
    (hu : request.urb = urb) (hg : request.generation = c.bulkOutGeneration)
    (hp : k ∈ c.pendingBulkOut) : Stands t k urb ∨ Replied c t k urb := by
  have he := step_effect hs
  by_cases ht : t.InSession
  · have hi := he.ne_importDone hc
    rcases he.pending hr hc hp hspares with hp' | hreplied
    · refine Or.inl ?_
      have hg' := hg.trans (he.generation hi).symm
      obtain ⟨v', hv', hstays⟩ := he.out_stays ht hi hv
      cases hstays with
      | kept => exact .outWorker v request ht hv' hm hk hu hg' hp'
      | told command =>
        refine .outWorker _ request ht hv' ?_ hk hu hg' hp'
        rw [OutWorker.commands_push]
        exact List.mem_append_left _ hm
      | moved v' move events hst hevents =>
        have hrun := ((hwaits.step hs).running ht _ v' hv').phase
        rcases (OutWorker.step_turn hst).keepsSubmit hrun hm with hm' | ⟨event, hmem, hke, hue, hge⟩
        · exact .outWorker v' request ht hv' hm' hk hu hg' hp'
        · refine .outEvent event ht ?_ (hke.trans hk) (hue.trans hu) (hge.trans hg') hp'
          rw [hevents]
          exact List.mem_append_right _ hmem
    · exact Or.inr hreplied
  · exact Or.inl (stands_of_left he hc ht hspares)

theorem Stands.step_outEvent (hr : Routed c) (he : Effect prof c a t)
    (hspares : c.Spares k urb a) {event : BulkOutEvent} (hc : c.InSession)
    (hm : event ∈ c.outEvents) (hk : event.seqnum = k) (hu : event.urb = urb)
    (hg : event.generation = c.bulkOutGeneration) (hp : k ∈ c.pendingBulkOut) :
    Stands t k urb ∨ Replied c t k urb := by
  by_cases ht : t.InSession
  · have hi := he.ne_importDone hc
    rcases he.outEvent_stays hm with hm' | ⟨rfl, rest, hqueue, rfl⟩
    · rcases he.pending hr hc hp hspares with hp' | hreplied
      · exact Or.inl (.outEvent event ht hm' hk hu (hg.trans (he.generation hi).symm) hp')
      · exact Or.inr hreplied
    · subst hk hu
      exact Or.inr (replied_deliverOut (hr.outEvents event hm).2 hg hp)
  · exact Or.inl (stands_of_left he hc ht hspares)

end Step

/-- **A URB in hand stays there until it is answered.** -/
theorem Stands.step (h : Stands c k urb) (hr : Routed c) (hwaits : Waits c) (hf : AllFit c)
    (hs : Connection.step prof c a = some t) (hspares : c.Spares k urb a)
    (hreceives : c.Receives a) : Stands t k urb ∨ Replied c t k urb := by
  cases h with
  | inWorker w hc hw hp ho => exact Stands.step_inWorker hf hs hspares hreceives hc hw hp ho
  | inEvent event hm hk hu => exact Stands.step_inEvent hr (step_effect hs) hspares hm hk hu
  | outWorker w request hc hw hm hk hu hg hp =>
    exact Stands.step_outWorker hr hwaits hs hspares hc hw hm hk hu hg hp
  | outEvent event hc hm hk hu hg hp =>
    exact Stands.step_outEvent hr (step_effect hs) hspares hc hm hk hu hg hp

end Connection
end Lusbip
