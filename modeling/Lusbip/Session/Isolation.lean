import Lusbip.Session.Outcomes

/-!
# Import sessions of a connection

An import stops the workers of the device before it and clears the books of the handler.
What it does not touch are the two event queues. A bulk-OUT event carries the generation its
request was submitted under, and is dropped when that is over; a bulk-IN event carries
nothing of the kind, and with `cancelledBulkInSeqnums` cleared nothing holds it back.

So the sessions are isolated as long as no bulk-IN event is queued when an import is carried
out. `Recent` is what the proof follows: URBs that were submitted after the last import that
was replied to. Everything at a worker is recent, everything in the bulk-IN queue is, and
so is a bulk-OUT event of the current generation.
-/

namespace Lusbip

open Lib.Transition

/-- The session an import reply opens. -/
def Reply.importSession? : Reply → Option Nat
  | .imported session _ => some session
  | _ => none

/-- The session of the URB that a reply is about. -/
def Reply.urbSession? : Reply → Option Nat
  | .submit _ urb _ _ => some urb.session
  | _ => none

/-- `reply'` is not about a URB from before the import that `reply` ends. -/
def Reply.Admits (reply reply' : Reply) : Prop :=
  ∀ n ∈ reply.importSession?, ∀ m ∈ reply'.urbSession?, n ≤ m

instance (reply reply' : Reply) : Decidable (reply.Admits reply') :=
  inferInstanceAs (Decidable (∀ n ∈ _, ∀ m ∈ _, n ≤ m))

namespace Connection

/-- No `RET_SUBMIT` after an import reply is for a URB from before the import. -/
def Isolated (c : Connection) : Prop := c.wire.Pairwise Reply.Admits

/-- An import that is replied to finds no bulk-IN event queued, and none finds a bulk-OUT
    event that has been waiting since the generation it opens was last in use. -/
def QuietImport (c : Connection) : Action → Prop
  | .importDone outcome =>
      (outcome.replied = true → c.inEvents = []) ∧
        ∀ event ∈ c.outEvents, event.generation ≠ c.bulkOutGeneration + 1
  | _ => True

instance (c : Connection) : ∀ a : Action, Decidable (c.QuietImport a)
  | .importDone outcome => inferInstanceAs (Decidable ((outcome.replied = true → _) ∧ _))
  | .submit _ | .unlink _ _ | .importRequest | .shutdownSent _ | .deliverIn | .deliverOut
  | .controlFlush _ | .controlResult | .execute _ | .inFlush _ | .inBarrier _ | .inOpened _ _
  | .inCommand _ | .inCompletion _ _ | .outMove _ _ => isTrue trivial

/-! ## Recent URBs -/

/-- The sessions opened by the replies on the wire. -/
def imports (c : Connection) : List Nat := c.wire.filterMap Reply.importSession?

/-- The URB was submitted after every import that was replied to. -/
def Recent (c : Connection) (urb : Urb) : Prop := ∀ n ∈ c.imports, n ≤ urb.session

structure Fenced (c : Connection) : Prop where
  isolated : c.Isolated
  imports : ∀ n ∈ c.imports, n ≤ c.session
  ins : ∀ ep w, c.ins ep = some w → ∀ request, w.Holds request → c.Recent request.urb
  inEvents : ∀ event ∈ c.inEvents, c.Recent event.urb
  outs : ∀ ep w, c.outs ep = some w → ∀ request, .submit request ∈ w.commands →
    c.Recent request.urb
  outEvents : ∀ event ∈ c.outEvents, event.generation = c.bulkOutGeneration → c.Recent event.urb
  serving : ∀ command urb remaining awaiting,
    c.phase = .serving command urb remaining awaiting → c.Recent urb

theorem fenced_init : Fenced {} :=
  ⟨List.Pairwise.nil, fun _ h => (nomatch h), fun _ _ h => (nomatch h), fun _ h => (nomatch h),
    fun _ _ h => (nomatch h), fun _ h => (nomatch h), fun _ _ _ _ h => (nomatch h)⟩

variable {prof : Profile} {c t : Connection} {a : Action}

/-- A reply that opens no session leaves what is recent as it is. -/
theorem Fenced.write (h : Fenced c) {reply : Reply} (hi : reply.importSession? = none)
    (hu : ∀ m ∈ reply.urbSession?, ∀ n ∈ c.imports, n ≤ m) : Fenced (c.write reply) := by
  have himports : (c.write reply).imports = c.imports := by
    simp [Connection.imports, Connection.write, List.filterMap_append, hi]
  have hrecent : ∀ urb, c.Recent urb → (c.write reply).Recent urb := by
    intro urb hurb
    rw [Recent, himports]
    exact hurb
  refine ⟨?_, ?_, fun ep w hw r hr => hrecent _ (h.ins ep w hw r hr),
    fun e he => hrecent _ (h.inEvents e he), fun ep w hw r hr => hrecent _ (h.outs ep w hw r hr),
    fun e he hg => hrecent _ (h.outEvents e he hg),
    fun command urb remaining awaiting hp => hrecent _ (h.serving _ _ _ _ hp)⟩
  · refine List.pairwise_append.mpr ⟨h.isolated, List.pairwise_singleton _ _, ?_⟩
    intro r hr r' hr' n hn m hm
    rw [List.mem_singleton.mp hr'] at hm
    exact hu m hm n (List.mem_filterMap.mpr ⟨r, hr, hn⟩)
  · rw [himports]
    exact h.imports

theorem Fenced.reply (h : Fenced c) {urb : Urb} (hurb : c.Recent urb) (source : Source)
    (response : UsbIpResponse) :
    Fenced (c.write (.submit c.session urb source response)) := by
  refine h.write rfl ?_
  intro m hm
  obtain rfl := Option.some.inj hm
  exact hurb

theorem Fenced.unlinked (h : Fenced c) (seqnum : UInt32) (response : UsbIpResponse) :
    Fenced (c.write (.unlink c.session seqnum response)) :=
  h.write rfl fun _ hm => nomatch hm

theorem Fenced.urbOf (h : Fenced c) (command : SubmitCommand) : c.Recent (c.urbOf command) :=
  fun n hn => h.imports n hn

/-! ## A step -/

theorem Fenced.submitIn (h : Fenced c) (command : SubmitCommand) {w : InWorker}
    (hw : c.ins (realEp command.header) = some w) :
    ∀ ep v, Function.update c.ins (realEp command.header) (some (w.push (.submit
        ⟨command.header, command.transferBufferLength, c.urbOf command⟩))) ep = some v →
      ∀ request, v.Holds request → c.Recent request.urb := by
  refine forall_update_some (fun ep v _ hv => h.ins ep v hv) fun request hr => ?_
  rcases hr with hr | hr
  · rcases List.mem_append.mp hr with hr | hr
    · exact h.ins _ w hw request (Or.inl hr)
    · obtain rfl := BulkInCommand.submit.inj (List.mem_singleton.mp hr)
      exact h.urbOf command
  · exact h.ins _ w hw request (Or.inr hr)

theorem Fenced.submitOut (h : Fenced c) (command : SubmitCommand) {w : OutWorker}
    (hw : c.outs (realEp command.header) = some w) :
    ∀ ep v, Function.update c.outs (realEp command.header) (some (w.push (.submit
        ⟨command.header, command.data, c.bulkOutGeneration, c.urbOf command⟩))) ep = some v →
      ∀ request, .submit request ∈ v.commands → c.Recent request.urb := by
  refine forall_update_some (fun ep v _ hv => h.outs ep v hv) fun request hr => ?_
  rw [OutWorker.commands_push] at hr
  rcases List.mem_append.mp hr with hr | hr
  · exact h.outs _ w hw request hr
  · obtain rfl := BulkOutCommand.submit.inj (List.mem_singleton.mp hr)
    exact h.urbOf command

/-- The session that a reply opens begins with nothing at the workers, and with no event
    that could still be written. -/
theorem Fenced.opened (h : Fenced c) {response : UsbIpResponse}
    (hwire : t.wire = c.wire ++ [.imported (c.session + 1) response])
    (hsession : t.session = c.session + 1) (hine : t.inEvents = [])
    (hins : ∀ ep w, t.ins ep = some w → ∀ request, ¬ w.Holds request)
    (houts : ∀ ep w, t.outs ep = some w → w.commands = [])
    (houte : ∀ event ∈ t.outEvents, event.generation ≠ t.bulkOutGeneration)
    (hp : t.phase = .select) : Fenced t where
  isolated := by
    rw [Isolated, hwire]
    refine List.pairwise_append.mpr ⟨h.isolated, List.pairwise_singleton _ _, ?_⟩
    intro r hr r' hr' n hn m hm
    rw [List.mem_singleton.mp hr'] at hm
    cases hm
  imports n hn := by
    rw [Connection.imports, hwire, List.filterMap_append] at hn
    rw [hsession]
    rcases List.mem_append.mp hn with hn | hn
    · exact (h.imports n hn).trans (Nat.le_succ _)
    · exact (List.mem_singleton.mp hn).le
  ins ep w hw r hr := absurd hr (hins ep w hw r)
  inEvents e he := by
    rw [hine] at he
    cases he
  outs ep w hw r hr := by
    rw [houts ep w hw] at hr
    cases hr
  outEvents e he hg := absurd hg (houte e he)
  serving command urb remaining awaiting hs := by
    rw [hp] at hs
    cases hs

theorem Fenced.importDone (h : Fenced c) {outcome : ImportOutcome}
    (hq : c.QuietImport (.importDone outcome)) : Fenced (c.importDone outcome) := by
  obtain ⟨hquiet, hgen⟩ := hq
  unfold Connection.importDone
  cases outcome with
  | rejected =>
    exact ⟨h.isolated, fun n hn => (h.imports n hn).trans (Nat.le_succ _),
      fun _ _ h => (nomatch h), h.inEvents, fun _ _ h => (nomatch h),
      fun e he hg => absurd hg (hgen e he), fun _ _ _ _ h => (nomatch h)⟩
  | refused =>
    exact h.opened rfl rfl (hquiet rfl) (fun _ _ h => nomatch h) (fun _ _ h => nomatch h)
      hgen rfl
  | succeeded device opens =>
    refine h.opened rfl rfl (hquiet rfl) ?_ ?_ hgen rfl
    · intro ep w hw r hr
      obtain ⟨hheld, hreq⟩ := held_startBulkInWorkers hw
      rcases hr with hr | ⟨s, hr⟩
      · have hmem : r.header.seqnum ∈ w.held :=
          List.mem_append_left _ (List.mem_filterMap.mpr ⟨_, hr, rfl⟩)
        rw [hheld] at hmem
        cases hmem
      · rw [hreq] at hr
        cases hr
    · intro ep w hw
      obtain ⟨-, rfl⟩ := startedOut_eq_some.mp hw
      rfl

theorem Fenced.deliverIn (h : Fenced c) {event : BulkInEvent} {rest : List BulkInEvent}
    (he : c.inEvents = event :: rest) : Fenced (c.deliverIn event rest) := by
  have hrest : ∀ e ∈ rest, c.Recent e.urb := fun e hr => h.inEvents e (he ▸ List.mem_cons_of_mem _ hr)
  have hurb : c.Recent event.urb := h.inEvents event (he ▸ List.mem_cons_self)
  unfold Connection.deliverIn
  dsimp only
  split
  · exact Fenced.reply (c := { c with
      inEvents := rest
      bulkInSeqnums := Function.update c.bulkInSeqnums event.seqnum none
      cancelledBulkInSeqnums := c.cancelledBulkInSeqnums.erase event.seqnum })
      ⟨h.isolated, h.imports, h.ins, hrest, h.outs, h.outEvents, h.serving⟩ hurb _ _
  · exact ⟨h.isolated, h.imports, h.ins, hrest, h.outs, h.outEvents, h.serving⟩

theorem Fenced.deliverOut (h : Fenced c) {event : BulkOutEvent} {rest : List BulkOutEvent}
    (he : c.outEvents = event :: rest) : Fenced (c.deliverOut event rest) := by
  have hrest : ∀ e ∈ rest, e.generation = c.bulkOutGeneration → c.Recent e.urb :=
    fun e hr => h.outEvents e (he ▸ List.mem_cons_of_mem _ hr)
  unfold Connection.deliverOut
  dsimp only
  split
  · rename_i hg
    have hurb : c.Recent event.urb :=
      h.outEvents event (he ▸ List.mem_cons_self) (of_decide_eq_true hg).symm
    split
    · exact Fenced.reply (c := { c with
        outEvents := rest
        bulkOutSeqnums := Function.update c.bulkOutSeqnums event.seqnum none
        pendingBulkOut := c.pendingBulkOut.erase event.seqnum })
        ⟨h.isolated, h.imports, h.ins, h.inEvents, h.outs, hrest, h.serving⟩ hurb _ _
    · exact ⟨h.isolated, h.imports, h.ins, h.inEvents, h.outs, hrest, h.serving⟩
  · exact ⟨h.isolated, h.imports, h.ins, h.inEvents, h.outs, hrest, h.serving⟩

theorem Fenced.execute (h : Fenced c) {command : SubmitCommand} {urb : Urb}
    {device : UsbDevice} {host : Host} (hp : c.phase = .serving command urb [] none) :
    Fenced (c.execute prof command urb device host) := by
  unfold Connection.execute
  dsimp only
  split
  · exact Fenced.reply (c := { c with phase := .select, controls := _ })
      ⟨h.isolated, h.imports, h.ins, h.inEvents, h.outs, h.outEvents, fun _ _ _ _ h => nomatch h⟩
      (h.serving _ _ _ _ hp) _ _
  · exact ⟨h.isolated, h.imports, h.ins, h.inEvents, h.outs, h.outEvents,
      fun _ _ _ _ h => nomatch h⟩
  · exact ⟨h.isolated, h.imports, h.ins, h.inEvents, h.outs, h.outEvents,
      fun _ _ _ _ h => nomatch h⟩

theorem Fenced.step (h : Fenced c) (hq : c.QuietImport a) (he : Effect prof c a t) :
    Fenced t := by
  cases he with
  | ignored command hd hp =>
    exact ⟨h.isolated, h.imports, h.ins, h.inEvents, h.outs, h.outEvents, h.serving⟩
  | submitIn command w hp hw =>
    exact ⟨h.isolated, h.imports, h.submitIn command hw, h.inEvents, h.outs, h.outEvents,
      h.serving⟩
  | submitOut command w hp hw =>
    exact ⟨h.isolated, h.imports, h.ins, h.inEvents, h.submitOut command hw, h.outEvents,
      h.serving⟩
  | serve command remaining hp hr =>
    refine ⟨h.isolated, h.imports, h.ins, h.inEvents, h.outs, h.outEvents, ?_⟩
    intro _ urb _ _ hs
    cases hs
    exact h.urbOf command
  | unlinkIn header seqnum endpoint ins hp hs hins =>
    exact Fenced.unlinked (c := { c with
      clock := c.clock + 1
      ins := ins
      bulkInSeqnums := Function.update c.bulkInSeqnums seqnum none
      cancelledBulkInSeqnums := insert seqnum c.cancelledBulkInSeqnums })
      ⟨h.isolated, h.imports, hins.holds h.ins, h.inEvents, h.outs, h.outEvents, h.serving⟩ _ _
  | unlinkOut header seqnum endpoint outs hp hs houts =>
    exact Fenced.unlinked (c := { c with
      clock := c.clock + 1
      outs := outs
      bulkOutSeqnums := Function.update c.bulkOutSeqnums seqnum none
      pendingBulkOut := c.pendingBulkOut.erase seqnum })
      ⟨h.isolated, h.imports, h.ins, h.inEvents,
        houts.commands (fun _ h => nomatch h) h.outs, h.outEvents, h.serving⟩ _ _
  | unlinkUnknown header seqnum hp =>
    exact Fenced.unlinked (c := { c with clock := c.clock + 1 })
      ⟨h.isolated, h.imports, h.ins, h.inEvents, h.outs, h.outEvents, h.serving⟩ _ _
  | importRequest hp =>
    exact ⟨h.isolated, h.imports, fun _ _ h => (nomatch h), h.inEvents, h.outs, h.outEvents,
      fun _ _ _ _ h => nomatch h⟩
  | shutdownSent endpoint remaining outs hp houts =>
    exact ⟨h.isolated, h.imports, h.ins, h.inEvents,
      houts.commands (fun _ h => nomatch h) h.outs, h.outEvents,
      fun _ _ _ _ h => nomatch h⟩
  -- The one step that can break the fence is an import, and it comes while all is quiet.
  | importDone outcome hp => exact h.importDone hq
  | deliverIn event rest hp he => exact h.deliverIn he
  | deliverOut event rest hp he => exact h.deliverOut he
  | controlFlush command urb remaining endpoint w hp hw =>
    refine ⟨h.isolated, h.imports, h.ins, h.inEvents, ?_, h.outEvents, ?_⟩
    · exact ToldOut.commands (Or.inr ⟨w, hw, rfl⟩) (fun _ h => nomatch h) h.outs
    · intro _ _ _ _ hs
      cases hs
      exact h.serving _ _ _ _ hp
  | controlFailed a command urb remaining awaiting endpoint err hp ha =>
    exact Fenced.reply (c := { c with phase := .select })
      ⟨h.isolated, h.imports, h.ins, h.inEvents, h.outs, h.outEvents,
        fun _ _ _ _ h => nomatch h⟩ (h.serving _ _ _ _ hp) _ _
  | controlPassed command urb remaining endpoint sender w hp hw hr =>
    refine ⟨h.isolated, h.imports, h.ins, h.inEvents, h.outs, h.outEvents, ?_⟩
    intro _ _ _ _ hs
    cases hs
    exact h.serving _ _ _ _ hp
  | execute host command urb device hp hd => exact h.execute hp
  | inFlush endpoint w out o seqnum len hw ho hout hwp =>
    refine ⟨h.isolated, h.imports, ?_, h.inEvents, ?_, h.outEvents, h.serving⟩
    · exact forall_update_some (fun ep v _ hv => h.ins ep v hv) (h.ins endpoint w hw)
    · exact ToldOut.commands (Or.inr ⟨o, hout, rfl⟩) (fun _ h => nomatch h) h.outs
  | inMove endpoint move w w' events hw hs hf hb =>
    have hm := InWorker.step_moves hs
    refine ⟨h.isolated, h.imports, ?_, ?_, h.outs, h.outEvents, h.serving⟩
    · exact forall_update_some (fun ep v _ hv => h.ins ep v hv)
        fun r hr => h.ins endpoint w hw r (hm.holds r hr)
    · intro e he
      rcases List.mem_append.mp he with he | he
      · exact h.inEvents e he
      · obtain ⟨-, r, hr, hurb, -⟩ := hm.answers e he
        rw [hurb]
        exact h.ins endpoint w hw r hr
  -- An event of an OUT worker is for a URB of its generation.
  | outMove endpoint move w w' events hw hs =>
    have hm := (OutWorker.step_turn hs).moves
    refine ⟨h.isolated, h.imports, h.ins, h.inEvents, ?_, ?_, h.serving⟩
    · exact forall_update_some (fun ep v _ hv => h.outs ep v hv)
        fun r hr => h.outs endpoint w hw r (hm.commands.subset hr)
    · intro e he hg
      rcases List.mem_append.mp he with he | he
      · exact h.outEvents e he hg
      · obtain ⟨⟨r, hr, hurb, -⟩, -⟩ := hm.answers e he
        rw [hurb]
        exact h.outs endpoint w hw r hr

/-- **Sessions are isolated when imports find the bulk-IN events delivered.** In a run with
    any number of imports, whatever the workers do and in whatever order their events are
    delivered, no `RET_SUBMIT` after an import reply is for a URB from before the import. -/
theorem isolated_of_quiet (prof : Profile) (acts : List Action)
    (h : Along (step prof) QuietImport {} acts) : Throughout (step prof) Isolated {} acts :=
  throughout_of_along (fun _ _ _ hs hq hstep => Fenced.step hs hq (step_effect hstep))
    (fun _ hs => hs.isolated) fenced_init h

/-- The second import of a client that does not wait for its last completion. -/
def importAgain : List Action :=
  [.importRequest, .shutdownSent 0x01, .importDone (.succeeded serialPort fun _ => true)]

/-- The client waits for its last completion before it imports the device again. -/
theorem deliveredThenImported_isolated :
    Throughout (step .release) Isolated {} (attach ++ [submitRead 1] ++ startRead ++
      [.inCompletion 0x81 (.ok [0x2A]), .deliverIn] ++ importAgain) :=
  isolated_of_quiet .release _ (by decide +kernel)

/-- **A bulk-IN completion outlives its session.** The read completes, the device is imported
    again, and only then the handler takes the event: the `RET_SUBMIT` of the first session is
    written in the second one. -/
theorem completionAcrossImport_not_isolated :
    ¬ ∀ acts, Throughout (step .release) Isolated {} acts := by
  intro h
  have hrun : (run (step .release) {} (attach ++ [submitRead 1] ++ startRead ++
      [.inCompletion 0x81 (.ok [0x2A])] ++ importAgain ++ [.deliverIn])).any
        (fun c => ¬ c.wire.Pairwise Reply.Admits) = true := by decide +kernel
  obtain ⟨c, hc, hw⟩ := (Option.any_eq_true _ _).mp hrun
  exact of_decide_eq_true hw ((h _).of_run hc)

end Connection
end Lusbip
