import Lusbip.Session.Effect
import Lusbip.Session.Ledger

/-!
# What a step does to one worker

`Effect` tells what a step does to a connection. Seen from one worker it does little: the worker
is new, or is as it was, or has been sent a command, or has made a move. `OutChange` and
`InChange` list this for the two kinds, so that what holds of every worker needs four cases and
not one for each way a step can end.
-/

namespace Lusbip
namespace Connection

variable {prof : Profile} {c t : Connection} {a : Action} {ep : UInt8}

/-! ## OUT workers -/

/-- The command that an action sends to the OUT worker of an endpoint. -/
inductive TellsOut (c : Connection) : Action → UInt8 → BulkOutCommand → Prop where
  | submit (command : SubmitCommand) (hp : c.phase = .select)
      (hdir : command.header.direction = 0) :
      TellsOut c (.submit command) (realEp command.header)
        (.submit ⟨command.header, command.data, c.bulkOutGeneration, c.urbOf command⟩)
  | unlink (header : UsbIpHeaderBasic) (unlinkSeqnum : UInt32) (endpoint : UInt8)
      (hp : c.phase = .select) (hs : c.bulkOutSeqnums unlinkSeqnum = some endpoint) :
      TellsOut c (.unlink header unlinkSeqnum) endpoint (.unlink unlinkSeqnum)
  | shutdown (endpoint : UInt8) (remaining : List UInt8) (hp : c.phase = .importing remaining) :
      TellsOut c (.shutdownSent endpoint) endpoint (.shutdown ⟨c.nextReply, c.clock⟩)
  | flush (endpoint : UInt8) (command : SubmitCommand) (urb : Urb) (remaining : List UInt8)
      (hp : c.phase = .serving command urb remaining none) :
      TellsOut c (.controlFlush endpoint) endpoint (.flush ⟨c.nextReply, c.clock⟩)
  | barrier (endpoint out : UInt8) (w : InWorker) (seqnum len : UInt32)
      (hw : c.ins endpoint = some w) (ho : w.outWorker = some out)
      (hp : w.phase = .barrier seqnum len none) :
      TellsOut c (.inFlush endpoint) out (.flush ⟨c.nextReply, c.clock⟩)

/-- The sender of a command that is answered is new. -/
theorem TellsOut.reply {command : BulkOutCommand} (h : TellsOut c a ep command)
    {sender : Oneshot} (hs : command.reply? = some sender) : sender = ⟨c.nextReply, c.clock⟩ := by
  cases h with
  | submit command hp hdir => cases hs
  | unlink header unlinkSeqnum endpoint hp hseq => cases hs
  | shutdown endpoint remaining hp => exact (Option.some.inj hs).symm
  | flush endpoint command urb remaining hp => exact (Option.some.inj hs).symm
  | barrier endpoint out w seqnum len hw ho hp => exact (Option.some.inj hs).symm

/-- What the OUT worker of an endpoint is after a step. -/
inductive OutChange (c : Connection) (a : Action) (ep : UInt8) : OutWorker → Prop where
  | started (outcome : ImportOutcome) (ha : a = .importDone outcome)
      (hp : c.phase = .importing []) : OutChange c a ep { address := ep }
  | kept (w : OutWorker) (hw : c.outs ep = some w) : OutChange c a ep w
  | told (w : OutWorker) (command : BulkOutCommand) (hw : c.outs ep = some w)
      (hc : TellsOut c a ep command) : OutChange c a ep (w.push command)
  | moved (w w' : OutWorker) (move : OutMove) (events : List BulkOutEvent)
      (hw : c.outs ep = some w) (ha : a = .outMove ep move)
      (hs : w.step move = some (w', events)) : OutChange c a ep w'

/-- After a command that may not have been sent. -/
theorem outChange_of_told {endpoint : UInt8} {command : BulkOutCommand}
    {outs : UInt8 → Option OutWorker} (h : ToldOut c.outs endpoint command outs)
    (hc : TellsOut c a endpoint command) {w : OutWorker} (hw : outs ep = some w) :
    OutChange c a ep w := by
  rcases h with rfl | ⟨v, hv, rfl⟩
  · exact .kept w hw
  · exact forall_update_some (P := fun ep w => OutChange c a ep w)
      (fun _ w _ hw => .kept w hw) (.told v command hv hc) ep w hw

/-- **What a step does to an OUT worker.** -/
theorem Effect.out (he : Effect prof c a t) {w : OutWorker} (hw : t.outs ep = some w) :
    OutChange c a ep w := by
  cases he with
  | submitOut command v hp hv hd hdir =>
    exact outChange_of_told (toldOut_push hv _) (.submit command hp hdir) hw
  | unlinkOut header seqnum endpoint outs hp hs htold =>
    exact outChange_of_told htold (.unlink header seqnum endpoint hp hs) hw
  | shutdownSent endpoint remaining outs hp htold =>
    exact outChange_of_told htold (.shutdown endpoint remaining hp) hw
  | importDone outcome hp =>
    rw [importDone_outs hw]
    exact .started outcome rfl hp
  | deliverIn event rest hp he =>
    rw [(deliverIn_outs c event rest).1] at hw
    exact .kept w hw
  | deliverOut event rest hp he =>
    rw [(deliverOut_frame c event rest).2.1] at hw
    exact .kept w hw
  | controlFlush command urb remaining endpoint v hp hv =>
    exact outChange_of_told (toldOut_push hv _) (.flush endpoint command urb remaining hp) hw
  | execute host command urb device hp hd =>
    rw [(execute_frame prof c command urb device host).2.1] at hw
    exact .kept w hw
  | inFlush endpoint v out o seqnum len hv ho hout hvp =>
    exact outChange_of_told (toldOut_push hout _) (.barrier endpoint out v seqnum len hv ho hvp) hw
  | outMove endpoint move v v' events hv hs =>
    exact forall_update_some (P := fun ep w => OutChange c (.outMove endpoint move) ep w)
      (fun _ w _ hw => .kept w hw) (.moved v v' move events hv rfl hs) ep w hw
  | _ => exact .kept w hw

/-! ## IN workers -/

/-- The command that an action sends to the IN worker of an endpoint. -/
inductive TellsIn (c : Connection) : Action → UInt8 → BulkInCommand → Prop where
  | submit (command : SubmitCommand) (hp : c.phase = .select)
      (hdir : command.header.direction = 1) :
      TellsIn c (.submit command) (realEp command.header)
        (.submit ⟨command.header, command.transferBufferLength, c.urbOf command⟩)
  | unlink (header : UsbIpHeaderBasic) (unlinkSeqnum : UInt32) (endpoint : UInt8)
      (hp : c.phase = .select) (hs : c.bulkInSeqnums unlinkSeqnum = some endpoint) :
      TellsIn c (.unlink header unlinkSeqnum) endpoint (.unlink unlinkSeqnum)

/-- What the IN worker of an endpoint is after a step. -/
inductive InChange (c : Connection) (a : Action) (ep : UInt8) : InWorker → Prop where
  | started (device : UsbDevice) (opens : UInt8 → Bool)
      (ha : a = .importDone (.succeeded device opens)) (hp : c.phase = .importing [])
      (w : InWorker)
      (hw : startBulkInWorkers device (startBulkOutWorkers device opens) ep = some w) :
      InChange c a ep w
  | kept (w : InWorker) (hw : c.ins ep = some w) : InChange c a ep w
  | told (w : InWorker) (command : BulkInCommand) (hw : c.ins ep = some w)
      (hc : TellsIn c a ep command) : InChange c a ep (w.push command)
  | flushing (w : InWorker) (seqnum len : UInt32) (hw : c.ins ep = some w)
      (ha : a = .inFlush ep) (hp : w.phase = .barrier seqnum len none) :
      InChange c a ep { w with phase := .barrier seqnum len (some ⟨c.nextReply, c.clock⟩) }
  | moved (w w' : InWorker) (move : InMove) (events : List BulkInEvent)
      (hw : c.ins ep = some w) (ha : a = move.action ep) (hs : w.step move = some (w', events))
      (hb : ∀ result, move = .barrierResult result → c.barrierResult w = some result) :
      InChange c a ep w'

/-- **What a step does to an IN worker.** -/
theorem Effect.in (he : Effect prof c a t) {w : InWorker} (hw : t.ins ep = some w) :
    InChange c a ep w := by
  cases he with
  | submitIn command v hp hv hd hdir =>
    exact forall_update_some (P := fun ep w => InChange c (.submit command) ep w)
      (fun _ w _ hw => .kept w hw) (.told v _ hv (.submit command hp hdir)) ep w hw
  | unlinkIn header seqnum endpoint ins hp hs htold =>
    rcases htold with rfl | ⟨v, hv, rfl⟩
    · exact .kept w hw
    · exact forall_update_some (P := fun ep w => InChange c (.unlink header seqnum) ep w)
        (fun _ w _ hw => .kept w hw) (.told v _ hv (.unlink header seqnum endpoint hp hs)) ep w hw
  | importRequest hp => cases hw
  | importDone outcome hp =>
    cases outcome with
    | rejected => cases hw
    | refused => cases hw
    | succeeded device opens => exact .started device opens rfl hp w hw
  | deliverIn event rest hp he =>
    rw [(deliverIn_frame c event rest).2.1] at hw
    exact .kept w hw
  | deliverOut event rest hp he =>
    rw [(deliverOut_ins c event rest).1] at hw
    exact .kept w hw
  | execute host command urb device hp hd =>
    rw [(execute_frame prof c command urb device host).1] at hw
    exact .kept w hw
  | inFlush endpoint v out o seqnum len hv ho hout hvp =>
    exact forall_update_some (P := fun ep w => InChange c (.inFlush endpoint) ep w)
      (fun _ w _ hw => .kept w hw) (.flushing v seqnum len hv rfl hvp) ep w hw
  | inMove endpoint move v v' events hv hs hf hb =>
    exact forall_update_some (P := fun ep w => InChange c (move.action endpoint) ep w)
      (fun _ w _ hw => .kept w hw) (.moved v v' move events hv rfl hs hb) ep w hw
  | _ => exact .kept w hw

/-- A submit that does not find a device is passed over. -/
theorem Effect.submit_device {command : SubmitCommand} (he : Effect prof c a t)
    (ha : a = .submit command) :
    c.device ≠ none ∨ t.ins = c.ins ∧ t.outs = c.outs ∧ t.phase = c.phase := by
  cases he with
  | ignored command' hd hp => exact Or.inr ⟨rfl, rfl, rfl⟩
  | submitIn command' w hp hw hd hdir => exact Or.inl hd
  | submitOut command' w hp hw hd hdir => exact Or.inl hd
  | serve command' remaining hp hr hd hn => exact Or.inl hd
  | controlFailed a command' urb remaining awaiting endpoint err hp ha' =>
    rcases ha' with rfl | rfl <;> cases ha
  | inMove endpoint move w w' events hw hs hf hb => cases move <;> cases ha
  | _ => cases ha

/-! ## The URB that the handler serves -/

/-- A URB that is served has just been dispatched, or was served before the step. -/
theorem Effect.serving (he : Effect prof c a t) {command : SubmitCommand} {urb : Urb}
    {remaining : List UInt8} {awaiting : Option (UInt8 × Oneshot)}
    (hp : t.phase = .serving command urb remaining awaiting) :
    (a = .submit command ∧ c.phase = .select ∧ urb = c.urbOf command ∧ t.outs = c.outs) ∨
      ∃ remaining' awaiting', c.phase = .serving command urb remaining' awaiting' ∧
        remaining ⊆ remaining' := by
  cases he with
  | ignored command' hd hp' => cases hp'.symm.trans hp
  | submitIn command' w hp' hw hd hdir => cases hp'.symm.trans hp
  | submitOut command' w hp' hw hd hdir => cases hp'.symm.trans hp
  | serve command' remaining' hp' hr hd hn =>
    obtain ⟨rfl, rfl, -, -⟩ := HandlerPhase.serving.inj hp
    exact Or.inl ⟨rfl, hp', rfl, rfl⟩
  | unlinkIn header seqnum endpoint ins hp' hs htold => cases hp'.symm.trans hp
  | unlinkOut header seqnum endpoint outs hp' hs htold => cases hp'.symm.trans hp
  | unlinkUnknown header seqnum hp' => cases hp'.symm.trans hp
  | importRequest hp' => cases hp
  | shutdownSent endpoint remaining' outs hp' htold => cases hp
  | importDone outcome hp' => cases (importDone_frame c outcome).2.2.symm.trans hp
  | deliverIn event rest hp' he =>
    cases hp'.symm.trans ((deliverIn_outs c event rest).2.2.2.symm.trans hp)
  | deliverOut event rest hp' he =>
    cases hp'.symm.trans ((deliverOut_ins c event rest).2.2.2.symm.trans hp)
  | controlFlush command' urb' remaining' endpoint w hp' hw =>
    obtain ⟨rfl, rfl, rfl, -⟩ := HandlerPhase.serving.inj hp
    exact Or.inr ⟨_, _, hp', List.Subset.refl _⟩
  | controlFailed a command' urb' remaining' awaiting' endpoint err hp' ha => cases hp
  | controlPassed command' urb' remaining' endpoint sender w hp' hw hr =>
    obtain ⟨rfl, rfl, rfl, -⟩ := HandlerPhase.serving.inj hp
    exact Or.inr ⟨_, _, hp', fun _ h => List.mem_of_mem_filter h⟩
  | execute host command' urb' device hp' hd =>
    rcases execute_phase prof c command' urb' device host with hphase | hphase
    · cases hphase.symm.trans hp
    · cases hphase.symm.trans hp
  | inFlush endpoint w out o seqnum len hw ho hout hwp =>
    exact Or.inr ⟨_, _, hp, List.Subset.refl _⟩
  | inMove endpoint move w w' events hw hs hf hb => exact Or.inr ⟨_, _, hp, List.Subset.refl _⟩
  | outMove endpoint move w w' events hw hs => exact Or.inr ⟨_, _, hp, List.Subset.refl _⟩

/-! ## Events and replies -/

/-- An event that is queued was queued before, or has just been sent by a worker. -/
theorem Effect.inEvent (he : Effect prof c a t) {event : BulkInEvent} (h : event ∈ t.inEvents) :
    event ∈ c.inEvents ∨ ∃ endpoint move w w' events, a = move.action endpoint ∧
      c.ins endpoint = some w ∧ w.step move = some (w', events) ∧
      (∀ result, move = .barrierResult result → c.barrierResult w = some result) ∧
      t.ins endpoint = some w' ∧ event ∈ events := by
  cases he with
  | importDone outcome hp =>
    rw [(importDone_frame c outcome).1] at h
    exact Or.inl h
  | deliverIn event' rest hp he =>
    rw [(deliverIn_frame c event' rest).1] at h
    rw [he]
    exact Or.inl (List.mem_cons_of_mem _ h)
  | deliverOut event' rest hp he =>
    rw [(deliverOut_ins c event' rest).2.1] at h
    exact Or.inl h
  | execute host command urb device hp hd =>
    rw [(execute_frame prof c command urb device host).2.2.1] at h
    exact Or.inl h
  | inMove endpoint move w w' events hw hs hf hb =>
    exact (List.mem_append.mp h).imp id fun h =>
      ⟨endpoint, move, w, w', events, rfl, hw, hs, hb, Function.update_self .., h⟩
  | _ => exact Or.inl h

/-- A move of a worker adds its events to those that are queued. -/
theorem Effect.moved_events (he : Effect prof c a t) {move : InMove} {w w' : InWorker}
    {events : List BulkInEvent} (hw : c.ins ep = some w) (ha : a = move.action ep)
    (hs : w.step move = some (w', events))
    (hb : ∀ result, move = .barrierResult result → c.barrierResult w = some result) :
    t.inEvents = c.inEvents ++ events := by
  cases he with
  | inMove endpoint move' v v' events' hv hs' hf hb' =>
    have hsame : endpoint = ep ∧ (c.ins endpoint = c.ins ep → move' = move) := by
      cases move' with
      | barrierResult result =>
        -- The action does not carry the result; the OUT worker has it.
        cases move <;> cases ha
        refine ⟨rfl, fun _ => ?_⟩
        cases hv.symm.trans hw
        cases (hb' _ rfl).symm.trans (hb _ rfl)
        rfl
      | flushSent sender => exact absurd rfl (hf sender)
      | _ =>
        cases move <;> cases ha
        exact ⟨rfl, fun _ => rfl⟩
    obtain ⟨rfl, hmove⟩ := hsame
    cases hmove rfl
    cases hv.symm.trans hw
    cases hs'.symm.trans hs
    rfl
  | inFlush endpoint v out o seqnum len hv ho hout hvp =>
    cases move <;> cases ha
    cases hv.symm.trans hw
    simp only [InWorker.step, hvp, Option.some.injEq, Prod.mk.injEq] at hs
    rw [← hs.2, List.append_nil]
  | controlFailed a command urb remaining awaiting endpoint err hp ha' =>
    rcases ha' with rfl | rfl <;> cases move <;> cases ha
  | _ => cases move <;> cases ha

theorem Effect.outEvent (he : Effect prof c a t) {event : BulkOutEvent} (h : event ∈ t.outEvents) :
    event ∈ c.outEvents ∨ ∃ endpoint move w w' events, a = .outMove endpoint move ∧
      c.outs endpoint = some w ∧ w.step move = some (w', events) ∧ event ∈ events := by
  cases he with
  | importDone outcome hp =>
    rw [(importDone_frame c outcome).2.1] at h
    exact Or.inl h
  | deliverIn event' rest hp he =>
    rw [(deliverIn_outs c event' rest).2.1] at h
    exact Or.inl h
  | deliverOut event' rest hp he =>
    rw [(deliverOut_frame c event' rest).1] at h
    rw [he]
    exact Or.inl (List.mem_cons_of_mem _ h)
  | execute host command urb device hp hd =>
    rw [(execute_frame prof c command urb device host).2.2.2.1] at h
    exact Or.inl h
  | outMove endpoint move w w' events hw hs =>
    exact (List.mem_append.mp h).imp id fun h => ⟨endpoint, move, w, w', events, rfl, hw, hs, h⟩
  | _ => exact Or.inl h

/-- How a step answers a URB. -/
inductive Answered (prof : Profile) (c : Connection) : Action → Urb → Source → UsbIpResponse →
    Prop where
  | bulkIn (event : BulkInEvent) (h : event ∈ c.inEvents) :
      Answered prof c .deliverIn event.urb (.bulkIn event.endpoint) event.response
  | bulkOut (event : BulkOutEvent) (rest : List BulkOutEvent) (h : c.outEvents = event :: rest)
      (hg : event.generation = c.bulkOutGeneration) (hp : event.seqnum ∈ c.pendingBulkOut) :
      Answered prof c .deliverOut event.urb .bulkOut event.response
  | barrier (a : Action) (command : SubmitCommand) (urb : Urb) (remaining : List UInt8)
      (awaiting : Option (UInt8 × Oneshot))
      (hp : c.phase = .serving command urb remaining awaiting) :
      Answered prof c a urb .handler
        (.usbipRetSubmitFail (replyHeader command.header usbipRetSubmit) 0)
  | executed (host : Host) (command : SubmitCommand) (urb : Urb) (device : UsbDevice)
      (response : UsbIpResponse) (hp : c.phase = .serving command urb [] none)
      (hd : c.device = some device)
      (hr : handleUsbipCmdSubmit prof command.header command.transferBufferLength command.setup
        command.data device host = .ok response) :
      Answered prof c (.execute host) urb .handler response

theorem Effect.reply (he : Effect prof c a t) {n : Nat} {urb : Urb} {source : Source}
    {response : UsbIpResponse} (h : .submit n urb source response ∈ t.wire) :
    .submit n urb source response ∈ c.wire ∨
      (n = c.session ∧ Answered prof c a urb source response) := by
  -- The reply to an unlink is none to a URB.
  have hunlink : ∀ {k seqnum answer},
      .submit n urb source response ∈ c.wire ++ [.unlink k seqnum answer] →
        .submit n urb source response ∈ c.wire := by
    intro k seqnum answer h
    rcases List.mem_append.mp h with h | h
    · exact h
    · cases List.mem_singleton.mp h
  cases he with
  | unlinkIn header seqnum endpoint ins hp hs htold => exact Or.inl (hunlink h)
  | unlinkOut header seqnum endpoint outs hp hs htold => exact Or.inl (hunlink h)
  | unlinkUnknown header seqnum hp => exact Or.inl (hunlink h)
  | importDone outcome hp =>
    rcases importDone_wire h with h | ⟨k, response, hr⟩
    · exact Or.inl h
    · cases hr
  | deliverIn event rest hp he =>
    rw [deliverIn_wire] at h
    rcases List.mem_append.mp h with h | h
    · exact Or.inl h
    · split at h
      · cases List.mem_singleton.mp h
        exact Or.inr ⟨rfl, .bulkIn event (he ▸ List.mem_cons_self)⟩
      · cases h
  | deliverOut event rest hp he =>
    rw [deliverOut_eq] at h
    split at h
    · rename_i hgen
      rcases List.mem_append.mp h with h | h
      · exact Or.inl h
      · split at h
        · rename_i hpending
          cases List.mem_singleton.mp h
          exact Or.inr ⟨rfl, .bulkOut event rest he (of_decide_eq_true hgen).symm hpending⟩
        · cases h
    · exact Or.inl h
  | controlFailed a command urb remaining awaiting endpoint err hp ha =>
    rcases List.mem_append.mp h with h | h
    · exact Or.inl h
    · cases List.mem_singleton.mp h
      exact Or.inr ⟨rfl, .barrier a command urb remaining awaiting hp⟩
  | execute host command urb device hp hd =>
    rcases execute_wire h with h | ⟨response, hresult, hr⟩
    · exact Or.inl h
    · cases hr
      exact Or.inr ⟨rfl, .executed host command urb device response hp hd hresult⟩
  | _ => exact Or.inl h

/-! ## Executions -/

/-- A URB that has been executed is served no more. -/
theorem Effect.execute_phase (he : Effect prof c a t) {host : Host} (ha : a = .execute host)
    (command : SubmitCommand) (urb : Urb) (remaining : List UInt8)
    (awaiting : Option (UInt8 × Oneshot)) :
    t.phase ≠ .serving command urb remaining awaiting := by
  cases he with
  | execute host command' urb' device hp hd =>
    intro hp'
    rcases Connection.execute_phase prof c command' urb' device host with hphase | hphase
    · cases hphase.symm.trans hp'
    · cases hphase.symm.trans hp'
  | controlFailed a command' urb' remaining' awaiting' endpoint err hp ha' =>
    intro hp'
    cases hp'
  | inMove endpoint move w w' events hw hs hf hb => cases move <;> cases ha
  | _ => cases ha

/-- What the handler comes to with a URB is the reply to it. -/
theorem Effect.execute_wire (he : Effect prof c a t) {host : Host} (ha : a = .execute host)
    {command : SubmitCommand} {urb : Urb} {device : UsbDevice} {response : UsbIpResponse}
    (hp : c.phase = .serving command urb [] none) (hd : c.device = some device)
    (hr : handleUsbipCmdSubmit prof command.header command.transferBufferLength command.setup
      command.data device host = .ok response) :
    t.wire = c.wire ++ [.submit c.session urb .handler response] := by
  cases he with
  | execute host' command' urb' device' hp' hd' =>
    cases ha
    cases hp.symm.trans hp'
    cases hd.symm.trans hd'
    unfold Connection.execute
    dsimp only
    rw [hr]
    rfl
  | controlFailed a command' urb' remaining' awaiting' endpoint err hp' ha' =>
    rcases ha' with rfl | rfl <;> cases ha
  | inMove endpoint move w w' events hw hs hf hb => cases move <;> cases ha
  | _ => cases ha

end Connection
end Lusbip
