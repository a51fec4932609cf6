import Lusbip.Session.BulkInBooks
import Lusbip.Session.Connection

/-!
# What a step of a connection does

`Effect` lists it, one constructor for each way a step can end, with the state it ends in
written out. Every invariant of a connection is an induction over runs whose step is a case
analysis of `Effect`; none of them unfolds `Connection.step` again.
-/

namespace Lusbip

/-- The action that makes a bulk-IN worker move. -/
def InMove.action (endpoint : UInt8) : InMove → Action
  | .opened maxPacketSize => .inOpened endpoint maxPacketSize
  | .command => .inCommand endpoint
  | .flushSent _ => .inFlush endpoint
  | .barrierResult _ => .inBarrier endpoint
  | .completion result => .inCompletion endpoint result

namespace Connection

variable {prof : Profile} {c t : Connection} {a : Action}

/-- The map of IN workers after a command whose send may have failed. -/
def ToldIn (ins : UInt8 → Option InWorker) (endpoint : UInt8) (command : BulkInCommand)
    (ins' : UInt8 → Option InWorker) : Prop :=
  ins' = ins ∨ ∃ w, ins endpoint = some w ∧
    ins' = Function.update ins endpoint (some (w.push command))

def ToldOut (outs : UInt8 → Option OutWorker) (endpoint : UInt8) (command : BulkOutCommand)
    (outs' : UInt8 → Option OutWorker) : Prop :=
  outs' = outs ∨ ∃ w, outs endpoint = some w ∧
    outs' = Function.update outs endpoint (some (w.push command))

inductive Effect (prof : Profile) (c : Connection) : Action → Connection → Prop where
  | ignored (command : SubmitCommand) (hd : c.device = none) (hp : c.phase = .select) :
      Effect prof c (.submit command) { c with clock := c.clock + 1 }
  | submitIn (command : SubmitCommand) (w : InWorker) (hp : c.phase = .select)
      (hw : c.ins (realEp command.header) = some w) (hd : c.device ≠ none)
      (hdir : command.header.direction = 1) :
      Effect prof c (.submit command)
        { c with
          clock := c.clock + 1
          ins := Function.update c.ins (realEp command.header) (some (w.push (.submit
            ⟨command.header, command.transferBufferLength, c.urbOf command⟩)))
          bulkInSeqnums := Function.update c.bulkInSeqnums command.header.seqnum
            (some (realEp command.header)) }
  | submitOut (command : SubmitCommand) (w : OutWorker) (hp : c.phase = .select)
      (hw : c.outs (realEp command.header) = some w) (hd : c.device ≠ none)
      (hdir : command.header.direction = 0) :
      Effect prof c (.submit command)
        { c with
          clock := c.clock + 1
          outs := Function.update c.outs (realEp command.header) (some (w.push (.submit
            ⟨command.header, command.data, c.bulkOutGeneration, c.urbOf command⟩)))
          pendingBulkOut := insert command.header.seqnum c.pendingBulkOut
          bulkOutSeqnums := Function.update c.bulkOutSeqnums command.header.seqnum
            (some (realEp command.header)) }
  | serve (command : SubmitCommand) (remaining : List UInt8) (hp : c.phase = .select)
      (hr : requiresBulkOutControlBarrier (realEp command.header) = true →
        remaining = c.outEndpoints)
      (hd : c.device ≠ none)
      (hn : ∀ device endpoint intf w, c.device = some device →
        device.findEp (realEp command.header) = some (endpoint, intf) →
        usesBulkOutWorker endpoint.attributes command.header.direction = true →
        c.outs (realEp command.header) = some w → w.phase = .stopped) :
      Effect prof c (.submit command)
        { c with
          clock := c.clock + 1
          phase := .serving command (c.urbOf command) remaining none }
  | unlinkIn (header : UsbIpHeaderBasic) (unlinkSeqnum : UInt32) (endpoint : UInt8)
      (ins : UInt8 → Option InWorker) (hp : c.phase = .select)
      (hs : c.bulkInSeqnums unlinkSeqnum = some endpoint)
      (hins : ToldIn c.ins endpoint (.unlink unlinkSeqnum) ins) :
      Effect prof c (.unlink header unlinkSeqnum)
        { c with
          clock := c.clock + 1
          ins := ins
          bulkInSeqnums := Function.update c.bulkInSeqnums unlinkSeqnum none
          cancelledBulkInSeqnums := insert unlinkSeqnum c.cancelledBulkInSeqnums
          wire := c.wire ++ [.unlink c.session unlinkSeqnum (handleUsbipCmdUnlink header true)] }
  | unlinkOut (header : UsbIpHeaderBasic) (unlinkSeqnum : UInt32) (endpoint : UInt8)
      (outs : UInt8 → Option OutWorker) (hp : c.phase = .select)
      (hs : c.bulkOutSeqnums unlinkSeqnum = some endpoint)
      (houts : ToldOut c.outs endpoint (.unlink unlinkSeqnum) outs) :
      Effect prof c (.unlink header unlinkSeqnum)
        { c with
          clock := c.clock + 1
          outs := outs
          bulkOutSeqnums := Function.update c.bulkOutSeqnums unlinkSeqnum none
          pendingBulkOut := c.pendingBulkOut.erase unlinkSeqnum
          wire := c.wire ++ [.unlink c.session unlinkSeqnum
            (handleUsbipCmdUnlink header (unlinkSeqnum ∈ c.pendingBulkOut))] }
  | unlinkUnknown (header : UsbIpHeaderBasic) (unlinkSeqnum : UInt32) (hp : c.phase = .select) :
      Effect prof c (.unlink header unlinkSeqnum)
        { c with
          clock := c.clock + 1
          wire := c.wire ++ [.unlink c.session unlinkSeqnum (handleUsbipCmdUnlink header false)] }
  | importRequest (hp : c.phase = .select) : Effect prof c .importRequest c.importRequest
  | shutdownSent (endpoint : UInt8) (remaining : List UInt8) (outs : UInt8 → Option OutWorker)
      (hp : c.phase = .importing remaining)
      (houts : ToldOut c.outs endpoint (.shutdown ⟨c.nextReply, c.clock⟩) outs) :
      Effect prof c (.shutdownSent endpoint)
        { c with
          outs := outs
          phase := .importing (remaining.filter (· ≠ endpoint))
          nextReply := c.nextReply + 1 }
  | importDone (outcome : ImportOutcome) (hp : c.phase = .importing []) :
      Effect prof c (.importDone outcome) (c.importDone outcome)
  | deliverIn (event : BulkInEvent) (rest : List BulkInEvent) (hp : c.phase = .select)
      (he : c.inEvents = event :: rest) : Effect prof c .deliverIn (c.deliverIn event rest)
  | deliverOut (event : BulkOutEvent) (rest : List BulkOutEvent) (hp : c.phase = .select)
      (he : c.outEvents = event :: rest) : Effect prof c .deliverOut (c.deliverOut event rest)
  | controlFlush (command : SubmitCommand) (urb : Urb) (remaining : List UInt8)
      (endpoint : UInt8) (w : OutWorker) (hp : c.phase = .serving command urb remaining none)
      (hw : c.outs endpoint = some w) :
      Effect prof c (.controlFlush endpoint)
        { c with
          outs := Function.update c.outs endpoint
            (some (w.push (.flush ⟨c.nextReply, c.clock⟩)))
          phase := .serving command urb remaining (some (endpoint, ⟨c.nextReply, c.clock⟩))
          nextReply := c.nextReply + 1 }
  | controlFailed (a : Action) (command : SubmitCommand) (urb : Urb) (remaining : List UInt8)
      (awaiting : Option (UInt8 × Oneshot)) (endpoint : UInt8) (err : String)
      (hp : c.phase = .serving command urb remaining awaiting)
      (ha : a = .controlFlush endpoint ∨ a = .controlResult) :
      Effect prof c a (c.controlBarrier command urb remaining endpoint (.error err))
  | controlPassed (command : SubmitCommand) (urb : Urb) (remaining : List UInt8)
      (endpoint : UInt8) (sender : Oneshot) (w : OutWorker)
      (hp : c.phase = .serving command urb remaining (some (endpoint, sender)))
      (hw : c.outs endpoint = some w) (hr : w.flushResult (some sender) = some (.ok ())) :
      Effect prof c .controlResult (c.controlBarrier command urb remaining endpoint (.ok ()))
  | execute (host : Host) (command : SubmitCommand) (urb : Urb) (device : UsbDevice)
      (hp : c.phase = .serving command urb [] none) (hd : c.device = some device) :
      Effect prof c (.execute host) (c.execute prof command urb device host)
  | inFlush (endpoint : UInt8) (w : InWorker) (out : UInt8) (o : OutWorker)
      (seqnum len : UInt32) (hw : c.ins endpoint = some w) (ho : w.outWorker = some out)
      (hout : c.outs out = some o) (hwp : w.phase = .barrier seqnum len none) :
      Effect prof c (.inFlush endpoint)
        { c with
          outs := Function.update c.outs out (some (o.push (.flush ⟨c.nextReply, c.clock⟩)))
          nextReply := c.nextReply + 1
          ins := Function.update c.ins endpoint (some
            { w with phase := .barrier seqnum len (some ⟨c.nextReply, c.clock⟩) }) }
  | inMove (endpoint : UInt8) (move : InMove) (w w' : InWorker) (events : List BulkInEvent)
      (hw : c.ins endpoint = some w) (hs : w.step move = some (w', events))
      (hf : ∀ sender, move ≠ .flushSent sender)
      (hb : ∀ result, move = .barrierResult result → c.barrierResult w = some result) :
      Effect prof c (move.action endpoint)
        { c with
          ins := Function.update c.ins endpoint (some w')
          inEvents := c.inEvents ++ events }
  | outMove (endpoint : UInt8) (move : OutMove) (w w' : OutWorker)
      (events : List BulkOutEvent) (hw : c.outs endpoint = some w)
      (hs : w.step move = some (w', events)) :
      Effect prof c (.outMove endpoint move)
        { c with
          outs := Function.update c.outs endpoint (some w')
          outEvents := c.outEvents ++ events }

/-- No import is under way. -/
def InSession (c : Connection) : Prop := ∀ remaining, c.phase ≠ .importing remaining

theorem inSession_select (hp : c.phase = .select) : c.InSession := by
  intro remaining hi
  rw [hp] at hi
  cases hi

theorem inSession_serving {command : SubmitCommand} {urb : Urb} {remaining : List UInt8}
    {awaiting : Option (UInt8 × Oneshot)} (hp : c.phase = .serving command urb remaining awaiting) :
    c.InSession := by
  intro remaining' hi
  rw [hp] at hi
  cases hi

/-- What holds of every worker of a map, and of the one that takes a place in it. -/
theorem forall_update_some {β : Type} {f : UInt8 → Option β} {endpoint : UInt8} {b : β}
    {P : UInt8 → β → Prop} (h : ∀ ep w, ep ≠ endpoint → f ep = some w → P ep w)
    (hb : P endpoint b) : ∀ ep w, Function.update f endpoint (some b) ep = some w → P ep w := by
  intro ep w hw
  by_cases he : ep = endpoint
  · subst he
    rw [Function.update_self, Option.some.injEq] at hw
    exact hw ▸ hb
  · rw [Function.update_of_ne he] at hw
    exact h ep w he hw

theorem toldOut_push {outs : UInt8 → Option OutWorker} {endpoint : UInt8} {w : OutWorker}
    (hw : outs endpoint = some w) (command : BulkOutCommand) :
    ToldOut outs endpoint command (Function.update outs endpoint (some (w.push command))) :=
  Or.inr ⟨w, hw, rfl⟩

/-- An unlink brings no request to a worker. -/
theorem ToldIn.holds {ins ins' : UInt8 → Option InWorker} {endpoint : UInt8} {seqnum : UInt32}
    {P : UInt8 → BulkInRequest → Prop} (h : ToldIn ins endpoint (.unlink seqnum) ins')
    (hP : ∀ ep w, ins ep = some w → ∀ request, w.Holds request → P ep request) :
    ∀ ep w, ins' ep = some w → ∀ request, w.Holds request → P ep request := by
  rcases h with rfl | ⟨w, hw, rfl⟩
  · exact hP
  · refine forall_update_some (fun ep v _ hv => hP ep v hv) fun request hr => ?_
    rcases hr with hr | hr
    · rcases List.mem_append.mp hr with hr | hr
      · exact hP endpoint w hw request (Or.inl hr)
      · simp at hr
    · exact hP endpoint w hw request (Or.inr hr)

/-- Nor does a command that submits nothing. -/
theorem ToldOut.commands {outs outs' : UInt8 → Option OutWorker} {endpoint : UInt8}
    {command : BulkOutCommand} {P : UInt8 → BulkOutRequest → Prop}
    (h : ToldOut outs endpoint command outs') (hc : ∀ request, command ≠ .submit request)
    (hP : ∀ ep w, outs ep = some w → ∀ request, .submit request ∈ w.commands → P ep request) :
    ∀ ep w, outs' ep = some w → ∀ request, .submit request ∈ w.commands → P ep request := by
  rcases h with rfl | ⟨w, hw, rfl⟩
  · exact hP
  · refine forall_update_some (fun ep v _ hv => hP ep v hv) fun request hr => ?_
    rw [OutWorker.commands_push] at hr
    rcases List.mem_append.mp hr with hr | hr
    · exact hP endpoint w hw request hr
    · exact absurd (List.mem_singleton.mp hr).symm (hc request)

/-! ## Sends -/

theorem sendIn_sent {endpoint : UInt8} {command : BulkInCommand}
    (h : c.sendIn endpoint command = .sent t) :
    ∃ w, c.ins endpoint = some w ∧
      t = { c with ins := Function.update c.ins endpoint (some (w.push command)) } := by
  unfold sendIn at h
  cases hw : c.ins endpoint with
  | none =>
    rw [hw] at h
    cases h
  | some w =>
    rw [hw] at h
    dsimp only [InWorker.send] at h
    split at h
    · cases h
    · split at h
      · exact ⟨w, rfl, (Sent.sent.inj h).symm⟩
      · cases h

theorem sendOut_sent {endpoint : UInt8} {command : BulkOutCommand}
    (h : c.sendOut endpoint command = .sent t) :
    ∃ w, c.outs endpoint = some w ∧
      t = { c with outs := Function.update c.outs endpoint (some (w.push command)) } := by
  unfold sendOut at h
  cases hw : c.outs endpoint with
  | none =>
    rw [hw] at h
    cases h
  | some w =>
    rw [hw] at h
    dsimp only [OutWorker.send] at h
    split at h
    · cases h
    · split at h
      · exact ⟨w, rfl, (Sent.sent.inj h).symm⟩
      · cases h

theorem toldIn_of_ignoring {endpoint : UInt8} {command : BulkInCommand}
    (h : (c.sendIn endpoint command).ignoring c = some t) :
    ∃ ins, ToldIn c.ins endpoint command ins ∧ t = { c with ins := ins } := by
  rcases Sent.ignoring_eq_some h with h | rfl
  · obtain ⟨w, hw, rfl⟩ := sendIn_sent h
    exact ⟨_, Or.inr ⟨w, hw, rfl⟩, rfl⟩
  · exact ⟨t.ins, Or.inl rfl, rfl⟩

theorem toldOut_of_ignoring {endpoint : UInt8} {command : BulkOutCommand}
    (h : (c.sendOut endpoint command).ignoring c = some t) :
    ∃ outs, ToldOut c.outs endpoint command outs ∧ t = { c with outs := outs } := by
  rcases Sent.ignoring_eq_some h with h | rfl
  · obtain ⟨w, hw, rfl⟩ := sendOut_sent h
    exact ⟨_, Or.inr ⟨w, hw, rfl⟩, rfl⟩
  · exact ⟨t.outs, Or.inl rfl, rfl⟩

/-! ## The arms of the handler -/

/-- A worker that does not take a command has stopped. -/
theorem sendOut_closed {endpoint : UInt8} {command : BulkOutCommand} {w : OutWorker}
    (h : c.sendOut endpoint command = .closed) (hw : c.outs endpoint = some w) :
    w.phase = .stopped := by
  unfold sendOut at h
  rw [hw] at h
  dsimp only [OutWorker.send] at h
  split at h
  · assumption
  · split at h <;> cases h

/-- A URB for a running bulk-OUT worker is not left to the handler. -/
theorem submitOut_closed {device : UsbDevice} {command : SubmitCommand} {urb : Urb}
    {endpoint : UsbEndpoint} {intf : Option UsbInterface} {w : OutWorker}
    (h : c.submitOut device command urb = .closed)
    (hep : device.findEp urb.ep = some (endpoint, intf))
    (huse : usesBulkOutWorker endpoint.attributes command.header.direction = true)
    (hw : c.outs urb.ep = some w) : w.phase = .stopped := by
  unfold Connection.submitOut at h
  dsimp only at h
  rw [hep] at h
  dsimp only at h
  rw [if_pos huse] at h
  exact sendOut_closed (Sent.map_eq_closed h) hw

theorem submit_effect {command : SubmitCommand} (hp : c.phase = .select)
    (h : c.submit command = some t) : Effect prof c (.submit command) t := by
  unfold submit at h
  split at h
  · rename_i hd
    cases h
    exact .ignored command hd hp
  · rename_i device hdev
    have hd : c.device ≠ none := by simp [hdev]
    dsimp only at h
    split at h
    · rename_i u hu
      cases h
      -- A bulk-IN endpoint whose worker takes the command.
      unfold Connection.submitIn at hu
      dsimp only at hu
      split at hu
      · rename_i hdir
        obtain ⟨v, hv, rfl⟩ := Sent.map_eq_sent hu
        obtain ⟨w, hw, rfl⟩ := sendIn_sent hv
        exact .submitIn command w hp hw hd hdir
      · cases hu
    · cases h
    · split at h
      · rename_i u hu
        cases h
        unfold Connection.submitOut at hu
        dsimp only at hu
        split at hu
        · cases hu
        · split at hu
          -- A bulk-OUT endpoint whose worker takes it.
          · rename_i huse
            have hdir := (of_decide_eq_true huse).2
            obtain ⟨v, hv, rfl⟩ := Sent.map_eq_sent hu
            obtain ⟨w, hw, rfl⟩ := sendOut_sent hv
            exact .submitOut command w hp hw hd hdir
          · cases hu
      · cases h
      -- Neither: the handler executes the URB itself, and no OUT worker stands there that runs.
      · rename_i hclosed
        cases h
        refine .serve command _ hp (fun hb => if_pos hb) hd ?_
        intro device' endpoint intf w hdev' hep huse hw
        rw [hdev, Option.some.injEq] at hdev'
        subst hdev'
        exact submitOut_closed hclosed hep huse hw

theorem unlink_effect {header : UsbIpHeaderBasic} {unlinkSeqnum : UInt32}
    (hp : c.phase = .select) (h : c.unlink header unlinkSeqnum = some t) :
    Effect prof c (.unlink header unlinkSeqnum) t := by
  unfold unlink at h
  dsimp only at h
  cases hin : c.bulkInSeqnums unlinkSeqnum with
  | some endpoint =>
    rw [hin] at h
    obtain ⟨u, hu, rfl⟩ := Option.map_eq_some_iff.mp h
    obtain ⟨ins, hins, rfl⟩ := toldIn_of_ignoring hu
    exact .unlinkIn header unlinkSeqnum endpoint ins hp hin hins
  | none =>
    rw [hin] at h
    dsimp only at h
    cases hout : c.bulkOutSeqnums unlinkSeqnum with
    | some endpoint =>
      rw [hout] at h
      obtain ⟨u, hu, rfl⟩ := Option.map_eq_some_iff.mp h
      obtain ⟨outs, houts, rfl⟩ := toldOut_of_ignoring hu
      exact .unlinkOut header unlinkSeqnum endpoint outs hp hout houts
    | none =>
      rw [hout] at h
      cases h
      exact .unlinkUnknown header unlinkSeqnum hp

theorem shutdownSent_effect {endpoint : UInt8} {remaining : List UInt8}
    (hp : c.phase = .importing remaining) (h : c.shutdownSent remaining endpoint = some t) :
    Effect prof c (.shutdownSent endpoint) t := by
  unfold Connection.shutdownSent at h
  obtain ⟨outs, houts, rfl⟩ := toldOut_of_ignoring h
  exact .shutdownSent endpoint remaining outs hp houts

theorem controlFlush_effect {command : SubmitCommand} {urb : Urb} {remaining : List UInt8}
    {endpoint : UInt8} (hp : c.phase = .serving command urb remaining none)
    (h : c.controlFlush command urb remaining endpoint = some t) :
    Effect prof c (.controlFlush endpoint) t := by
  unfold Connection.controlFlush at h
  dsimp only at h
  split at h
  · rename_i u hu
    cases h
    obtain ⟨w, hw, rfl⟩ := sendOut_sent hu
    exact .controlFlush command urb remaining endpoint w hp hw
  · cases h
    exact .controlFailed _ command urb remaining none endpoint _ hp (Or.inl rfl)
  · cases h

/-! ## The moves of the workers -/

theorem moveIn_effect {endpoint : UInt8} (move : InMove) {w : InWorker}
    (hw : c.ins endpoint = some w) (hf : ∀ sender, move ≠ .flushSent sender)
    (hb : ∀ result, move = .barrierResult result → c.barrierResult w = some result)
    (h : c.moveIn endpoint move = some t) : Effect prof c (move.action endpoint) t := by
  unfold moveIn at h
  rw [hw, Option.bind_eq_bind, Option.bind_some] at h
  obtain ⟨⟨w', events⟩, hs, h⟩ := Option.bind_eq_some_iff.mp h
  cases h
  exact .inMove endpoint move w w' events hw hs hf hb

theorem inFlush_effect {endpoint : UInt8} (h : c.inFlush endpoint = some t) :
    Effect prof c (.inFlush endpoint) t := by
  unfold Connection.inFlush at h
  obtain ⟨w, hw, h⟩ := Option.bind_eq_some_iff.mp h
  obtain ⟨out, ho, h⟩ := Option.bind_eq_some_iff.mp h
  dsimp only at h
  split at h
  · rename_i u hu
    obtain ⟨o, hout, rfl⟩ := sendOut_sent hu
    unfold moveIn at h
    dsimp only at h
    rw [hw, Option.bind_eq_bind, Option.bind_some] at h
    obtain ⟨⟨w', events⟩, hs, h⟩ := Option.bind_eq_some_iff.mp h
    cases InWorker.step_turn hs with
    | flushing reply seqnum len hwp =>
      cases h
      have hev : c.inEvents ++ [] = c.inEvents := List.append_nil _
      rw [hev]
      exact .inFlush endpoint w out o seqnum len hw ho hout hwp
  · cases h

/-- **What a step can do.** -/
theorem step_effect (h : step prof c a = some t) : Effect prof c a t := by
  unfold step at h
  split at h
  · exact submit_effect ‹_› h
  · exact unlink_effect ‹_› h
  · cases h
    exact .importRequest ‹_›
  · split at h
    · exact shutdownSent_effect ‹_› h
    · cases h
  · cases h
    exact .importDone _ ‹_›
  · split at h
    · cases h
      exact .deliverIn _ _ ‹_› ‹_›
    · cases h
  · split at h
    · cases h
      exact .deliverOut _ _ ‹_› ‹_›
    · cases h
  · split at h
    · exact controlFlush_effect ‹_› h
    · cases h
  · rename_i command urb remaining endpoint sender hp
    obtain ⟨w, hw, h⟩ := Option.bind_eq_some_iff.mp h
    obtain ⟨result, hr, h⟩ := Option.bind_eq_some_iff.mp h
    cases h
    cases result with
    | ok u => exact .controlPassed command urb remaining endpoint sender w hp hw hr
    | error err => exact .controlFailed _ command urb remaining _ endpoint err hp (Or.inr rfl)
  · obtain ⟨device, hd, rfl⟩ := Option.map_eq_some_iff.mp h
    exact .execute _ _ _ device ‹_› hd
  -- What the workers do.
  · exact inFlush_effect h
  · obtain ⟨w, hw, h⟩ := Option.bind_eq_some_iff.mp h
    obtain ⟨result, hr, h⟩ := Option.bind_eq_some_iff.mp h
    refine moveIn_effect (.barrierResult result) hw (fun _ h => nomatch h) ?_ h
    intro r hm
    cases hm
    exact hr
  · obtain ⟨w, hw, -⟩ := Option.bind_eq_some_iff.mp h
    exact moveIn_effect (.opened _) hw (fun _ h => nomatch h) (fun _ h => nomatch h) h
  · obtain ⟨w, hw, -⟩ := Option.bind_eq_some_iff.mp h
    exact moveIn_effect .command hw (fun _ h => nomatch h) (fun _ h => nomatch h) h
  · obtain ⟨w, hw, -⟩ := Option.bind_eq_some_iff.mp h
    exact moveIn_effect (.completion _) hw (fun _ h => nomatch h) (fun _ h => nomatch h) h
  · unfold moveOut at h
    obtain ⟨w, hw, h⟩ := Option.bind_eq_some_iff.mp h
    obtain ⟨⟨w', events⟩, hs, h⟩ := Option.bind_eq_some_iff.mp h
    cases h
    exact .outMove _ _ w w' events hw hs
  · cases h

/-! ## Deliveries, executions and the end of an import -/

/-- The whole of a delivery: only the wire depends on whether the URB was cancelled. -/
theorem deliverIn_eq (c : Connection) (event : BulkInEvent) (rest : List BulkInEvent) :
    c.deliverIn event rest = { c with
      inEvents := rest
      bulkInSeqnums := Function.update c.bulkInSeqnums event.seqnum none
      cancelledBulkInSeqnums := c.cancelledBulkInSeqnums.erase event.seqnum
      wire := c.wire ++
        if shouldWriteBulkInResponse c.cancelledBulkInSeqnums event.seqnum = true then
          [.submit c.session event.urb (.bulkIn event.endpoint) event.response]
        else [] } := by
  unfold Connection.deliverIn
  dsimp only
  split
  · rfl
  · rw [List.append_nil]

/-- What taking an event off the queue leaves alone. -/
theorem deliverIn_frame (c : Connection) (event : BulkInEvent) (rest : List BulkInEvent) :
    (c.deliverIn event rest).inEvents = rest ∧ (c.deliverIn event rest).ins = c.ins ∧
      (c.deliverIn event rest).session = c.session := by
  rw [deliverIn_eq]
  exact ⟨rfl, rfl, rfl⟩

theorem deliverIn_outs (c : Connection) (event : BulkInEvent) (rest : List BulkInEvent) :
    (c.deliverIn event rest).outs = c.outs ∧ (c.deliverIn event rest).outEvents = c.outEvents ∧
      (c.deliverIn event rest).device = c.device ∧ (c.deliverIn event rest).phase = c.phase := by
  rw [deliverIn_eq]
  exact ⟨rfl, rfl, rfl, rfl⟩

theorem deliverIn_wire (c : Connection) (event : BulkInEvent) (rest : List BulkInEvent) :
    (c.deliverIn event rest).wire = c.wire ++
      if shouldWriteBulkInResponse c.cancelledBulkInSeqnums event.seqnum = true then
        [.submit c.session event.urb (.bulkIn event.endpoint) event.response]
      else [] := by
  rw [deliverIn_eq]

/-- An event of another generation only leaves its queue. -/
theorem deliverOut_eq (c : Connection) (event : BulkOutEvent) (rest : List BulkOutEvent) :
    c.deliverOut event rest =
      if shouldWriteBulkOutResponse c.bulkOutGeneration event.generation = true then
        { c with
          outEvents := rest
          bulkOutSeqnums := Function.update c.bulkOutSeqnums event.seqnum none
          pendingBulkOut := c.pendingBulkOut.erase event.seqnum
          wire := c.wire ++ if event.seqnum ∈ c.pendingBulkOut then
            [.submit c.session event.urb .bulkOut event.response] else [] }
      else { c with outEvents := rest } := by
  unfold Connection.deliverOut
  dsimp only
  split
  · split
    · rfl
    · rw [List.append_nil]
  · rfl

/-- The event of a URB of this generation that is pending is written. -/
theorem deliverOut_written {event : BulkOutEvent} (rest : List BulkOutEvent)
    (hg : event.generation = c.bulkOutGeneration) (hp : event.seqnum ∈ c.pendingBulkOut) :
    (c.deliverOut event rest).wire =
      c.wire ++ [.submit c.session event.urb .bulkOut event.response] := by
  have hwrite : shouldWriteBulkOutResponse c.bulkOutGeneration event.generation = true :=
    decide_eq_true hg.symm
  rw [deliverOut_eq, if_pos hwrite]
  dsimp only
  rw [if_pos hp]

theorem deliverOut_frame (c : Connection) (event : BulkOutEvent) (rest : List BulkOutEvent) :
    (c.deliverOut event rest).outEvents = rest ∧ (c.deliverOut event rest).outs = c.outs ∧
      (c.deliverOut event rest).session = c.session := by
  rw [deliverOut_eq]
  split <;> exact ⟨rfl, rfl, rfl⟩

theorem deliverOut_ins (c : Connection) (event : BulkOutEvent) (rest : List BulkOutEvent) :
    (c.deliverOut event rest).ins = c.ins ∧ (c.deliverOut event rest).inEvents = c.inEvents ∧
      (c.deliverOut event rest).device = c.device ∧
      (c.deliverOut event rest).phase = c.phase := by
  rw [deliverOut_eq]
  split <;> exact ⟨rfl, rfl, rfl, rfl⟩

/-- The records of the bulk-IN URBs, and the generation, are not the business of an OUT event. -/
theorem deliverOut_records (c : Connection) (event : BulkOutEvent) (rest : List BulkOutEvent) :
    (c.deliverOut event rest).bulkInSeqnums = c.bulkInSeqnums ∧
      (c.deliverOut event rest).bulkOutGeneration = c.bulkOutGeneration ∧
      (c.deliverOut event rest).nextReply = c.nextReply := by
  rw [deliverOut_eq]
  split <;> exact ⟨rfl, rfl, rfl⟩

/-- The reply to an event, if there is one. -/
theorem deliverOut_wire {event : BulkOutEvent} {rest : List BulkOutEvent} {reply : Reply}
    (h : reply ∈ (c.deliverOut event rest).wire) :
    reply ∈ c.wire ∨ reply = .submit c.session event.urb .bulkOut event.response := by
  unfold Connection.deliverOut at h
  dsimp only at h
  split at h
  · split at h
    · exact (List.mem_append.mp h).imp id List.mem_singleton.mp
    · exact Or.inl h
  · exact Or.inl h

theorem execute_frame (prof : Profile) (c : Connection) (command : SubmitCommand) (urb : Urb)
    (device : UsbDevice) (host : Host) : (c.execute prof command urb device host).ins = c.ins ∧
      (c.execute prof command urb device host).outs = c.outs ∧
      (c.execute prof command urb device host).inEvents = c.inEvents ∧
      (c.execute prof command urb device host).outEvents = c.outEvents ∧
      (c.execute prof command urb device host).device = c.device := by
  unfold Connection.execute
  dsimp only
  split <;> exact ⟨rfl, rfl, rfl, rfl, rfl⟩

/-- A URB that is served leaves the books on the bulk URBs as they are. -/
theorem execute_records (prof : Profile) (c : Connection) (command : SubmitCommand) (urb : Urb)
    (device : UsbDevice) (host : Host) :
    (c.execute prof command urb device host).bulkInSeqnums = c.bulkInSeqnums ∧
      (c.execute prof command urb device host).pendingBulkOut = c.pendingBulkOut ∧
      (c.execute prof command urb device host).bulkOutSeqnums = c.bulkOutSeqnums ∧
      (c.execute prof command urb device host).bulkOutGeneration = c.bulkOutGeneration ∧
      (c.execute prof command urb device host).nextReply = c.nextReply := by
  unfold Connection.execute
  dsimp only
  split <;> exact ⟨rfl, rfl, rfl, rfl, rfl⟩

theorem execute_phase (prof : Profile) (c : Connection) (command : SubmitCommand) (urb : Urb)
    (device : UsbDevice) (host : Host) : (c.execute prof command urb device host).phase = .select ∨
      (c.execute prof command urb device host).phase = .panicked := by
  unfold Connection.execute
  dsimp only
  split
  · exact Or.inl rfl
  · exact Or.inl rfl
  · exact Or.inr rfl

theorem execute_wire {command : SubmitCommand} {urb : Urb} {device : UsbDevice} {host : Host}
    {reply : Reply} (h : reply ∈ (c.execute prof command urb device host).wire) :
    reply ∈ c.wire ∨ ∃ response, handleUsbipCmdSubmit prof command.header
      command.transferBufferLength command.setup command.data device host = .ok response ∧
      reply = .submit c.session urb .handler response := by
  unfold Connection.execute at h
  dsimp only at h
  split at h
  · rename_i response hr
    exact (List.mem_append.mp h).imp id fun h => ⟨response, hr, List.mem_singleton.mp h⟩
  · exact Or.inl h
  · exact Or.inl h

/-- The workers after an import are new. -/
theorem importDone_ins {outcome : ImportOutcome} {endpoint : UInt8} {w : InWorker}
    (h : (c.importDone outcome).ins endpoint = some w) :
    ∃ outWorker, w = { address := endpoint, outWorker := outWorker } := by
  cases outcome with
  | succeeded device opens =>
    obtain ⟨-, rfl⟩ := startBulkInWorkers_eq_some.mp h
    exact ⟨_, rfl⟩
  | rejected => cases h
  | refused => cases h

theorem importDone_outs {outcome : ImportOutcome} {endpoint : UInt8} {w : OutWorker}
    (h : (c.importDone outcome).outs endpoint = some w) : w = { address := endpoint } := by
  cases outcome with
  | succeeded device opens => exact (startedOut_eq_some.mp h).2.symm
  | rejected => cases h
  | refused => cases h

theorem importDone_frame (c : Connection) (outcome : ImportOutcome) :
    (c.importDone outcome).inEvents = c.inEvents ∧
      (c.importDone outcome).outEvents = c.outEvents ∧
      (c.importDone outcome).phase = .select := by
  cases outcome <;> exact ⟨rfl, rfl, rfl⟩

theorem importDone_wire {outcome : ImportOutcome} {reply : Reply}
    (h : reply ∈ (c.importDone outcome).wire) :
    reply ∈ c.wire ∨ ∃ n response, reply = .imported n response := by
  cases outcome with
  | rejected => exact Or.inl h
  | refused => exact (List.mem_append.mp h).imp id fun h => ⟨_, _, List.mem_singleton.mp h⟩
  | succeeded device opens =>
    exact (List.mem_append.mp h).imp id fun h => ⟨_, _, List.mem_singleton.mp h⟩

/-! ## Time -/

@[simp] theorem importDone_clock (outcome : ImportOutcome) :
    (c.importDone outcome).clock = c.clock := by
  cases outcome <;> rfl

@[simp] theorem importDone_session (outcome : ImportOutcome) :
    (c.importDone outcome).session = c.session + 1 := by
  cases outcome <;> rfl

@[simp] theorem deliverIn_clock (event : BulkInEvent) (rest : List BulkInEvent) :
    (c.deliverIn event rest).clock = c.clock ∧ (c.deliverIn event rest).session = c.session := by
  rw [deliverIn_eq]
  exact ⟨rfl, rfl⟩

@[simp] theorem deliverOut_clock (event : BulkOutEvent) (rest : List BulkOutEvent) :
    (c.deliverOut event rest).clock = c.clock ∧
      (c.deliverOut event rest).session = c.session := by
  rw [deliverOut_eq]
  split <;> exact ⟨rfl, rfl⟩

@[simp] theorem execute_clock (command : SubmitCommand) (urb : Urb) (device : UsbDevice)
    (host : Host) : (c.execute prof command urb device host).clock = c.clock ∧
      (c.execute prof command urb device host).session = c.session := by
  unfold Connection.execute
  dsimp only
  split <;> exact ⟨rfl, rfl⟩

/-- The counts of commands and of imports only grow. -/
theorem Effect.mono (he : Effect prof c a t) : c.clock ≤ t.clock ∧ c.session ≤ t.session := by
  cases he with
  | importDone outcome hp => simp
  | deliverIn event rest hp he => simp
  | deliverOut event rest hp he => simp
  | execute host command urb device hp hd => simp
  | importRequest hp => exact ⟨Nat.le_succ _, le_rfl⟩
  | controlFailed a command urb remaining awaiting endpoint err hp ha => exact ⟨le_rfl, le_rfl⟩
  | controlPassed command urb remaining endpoint sender w hp hw hr => exact ⟨le_rfl, le_rfl⟩
  | shutdownSent endpoint remaining outs hp houts => exact ⟨le_rfl, le_rfl⟩
  | controlFlush command urb remaining endpoint w hp hw => exact ⟨le_rfl, le_rfl⟩
  | inFlush endpoint w out o seqnum len hw ho hout hwp => exact ⟨le_rfl, le_rfl⟩
  | inMove endpoint move w w' events hw hs hf hb => exact ⟨le_rfl, le_rfl⟩
  | outMove endpoint move w w' events hw hs => exact ⟨le_rfl, le_rfl⟩
  | _ => exact ⟨Nat.le_succ _, le_rfl⟩

/-- Only an import begins a new session. -/
theorem Effect.session (he : Effect prof c a t) :
    (∃ outcome, a = .importDone outcome ∧ t = c.importDone outcome) ∨ t.session = c.session := by
  cases he with
  | importDone outcome hp => exact Or.inl ⟨outcome, rfl, rfl⟩
  | deliverIn event rest hp he => exact Or.inr (deliverIn_clock event rest).2
  | deliverOut event rest hp he => exact Or.inr (deliverOut_clock event rest).2
  | execute host command urb device hp hd => exact Or.inr (execute_clock command urb device host).2
  | _ => exact Or.inr rfl

/-- Nothing but an import changes the generation. -/
theorem Effect.generation (he : Effect prof c a t) (hs : ∀ outcome, a ≠ .importDone outcome) :
    t.bulkOutGeneration = c.bulkOutGeneration := by
  cases he with
  | importDone outcome hp => exact absurd rfl (hs outcome)
  | deliverIn event rest hp he => rw [deliverIn_eq]
  | deliverOut event rest hp he => exact (deliverOut_records c event rest).2.1
  | execute host command urb device hp hd =>
    exact (execute_records prof c command urb device host).2.2.2.1
  | _ => rfl

theorem Effect.importDone_eq {outcome : ImportOutcome} (he : Effect prof c a t)
    (ha : a = .importDone outcome) : t = c.importDone outcome ∧ c.phase = .importing [] := by
  cases he with
  | importDone outcome hp =>
    cases ha
    exact ⟨rfl, hp⟩
  | controlFailed a command urb remaining awaiting endpoint err hp ha' =>
    rcases ha' with rfl | rfl <;> cases ha
  | inMove endpoint move w w' events hw hs hf hb => cases move <;> cases ha
  | _ => cases ha

/-- What is delivered is at the head of its queue. -/
theorem Effect.delivered_out (he : Effect prof c a t) (ha : a = .deliverOut) :
    ∃ event rest, c.outEvents = event :: rest ∧ t = c.deliverOut event rest := by
  cases he with
  | deliverOut event rest hp he => exact ⟨event, rest, he, rfl⟩
  | controlFailed a command urb remaining awaiting endpoint err hp ha' =>
    rcases ha' with rfl | rfl <;> cases ha
  | inMove endpoint move w w' events hw hs hf hb => cases move <;> cases ha
  | _ => cases ha

/-- No import ends while a session goes on. -/
theorem Effect.ne_importDone (he : Effect prof c a t) (hs : c.InSession) (outcome : ImportOutcome) :
    a ≠ .importDone outcome :=
  fun ha => hs [] (he.importDone_eq ha).2

theorem Effect.submit_clock {command : SubmitCommand} (he : Effect prof c a t)
    (ha : a = .submit command) : t.clock = c.clock + 1 := by
  cases he with
  | controlFailed a command urb remaining awaiting endpoint err hp ha' =>
    rcases ha' with rfl | rfl <;> cases ha
  | inMove endpoint move w w' events hw hs hf hb =>
    cases move <;> cases ha
  | _ => first | rfl | cases ha

/-! ## The OUT workers of a session -/

/-- While no import is under way, no OUT worker has stopped or is told to. -/
def Running (c : Connection) : Prop :=
  c.InSession → ∀ ep w, c.outs ep = some w → w.Runs

theorem running_init : Running {} := fun _ _ _ h => nomatch h

/-- A worker of the new map is one of the old map, or that one told a command. -/
theorem ToldOut.pushed {outs outs' : UInt8 → Option OutWorker} {endpoint : UInt8}
    {command : BulkOutCommand} (h : ToldOut outs endpoint command outs') :
    ∀ ep w, outs' ep = some w → ∃ v, outs ep = some v ∧ (w = v ∨ w = v.push command) := by
  rcases h with rfl | ⟨v, hv, rfl⟩
  · exact fun ep w hw => ⟨w, hw, Or.inl rfl⟩
  · exact forall_update_some (fun ep w _ hw => ⟨w, hw, Or.inl rfl⟩) ⟨v, hv, Or.inr rfl⟩

theorem Running.told (h : ∀ ep w, c.outs ep = some w → w.Runs) {endpoint : UInt8}
    {command : BulkOutCommand} {outs : UInt8 → Option OutWorker}
    (ht : ToldOut c.outs endpoint command outs) (hc : ∀ sender, command ≠ .shutdown sender) :
    ∀ ep w, outs ep = some w → w.Runs := by
  intro ep w hw
  obtain ⟨v, hv, rfl | rfl⟩ := ht.pushed ep w hw
  · exact h ep w hv
  · exact (h ep v hv).push hc

theorem Running.step (h : Running c) (he : Effect prof c a t) : Running t := by
  intro hs ep w hw
  cases he with
  | ignored command hd hp => exact h hs ep w hw
  | submitIn command v hp hv hd hdir => exact h hs ep w hw
  -- Only what sends to an OUT worker or moves one matters: no shutdown is sent within a session.
  | submitOut command v hp hv hd hdir =>
    refine forall_update_some (fun ep w _ hw => h hs ep w hw) ?_ ep w hw
    exact (h hs _ v hv).push fun _ hc => nomatch hc
  | serve command remaining hp hr hd hn => exact h (inSession_select hp) ep w hw
  | unlinkIn header seqnum endpoint ins hp hseq htold => exact h hs ep w hw
  | unlinkOut header seqnum endpoint outs hp hseq htold =>
    exact Running.told (h hs) htold (fun _ hc => nomatch hc) ep w hw
  | unlinkUnknown header seqnum hp => exact h hs ep w hw
  | importRequest hp => exact absurd rfl (hs _)
  | shutdownSent endpoint remaining outs hp htold => exact absurd rfl (hs _)
  | importDone outcome hp =>
    rw [importDone_outs hw]
    exact ⟨fun hp' => (nomatch hp'), fun _ hm => (nomatch hm)⟩
  | deliverIn event rest hp he =>
    rw [(deliverIn_outs c event rest).1] at hw
    exact h (inSession_select hp) ep w hw
  | deliverOut event rest hp he =>
    rw [(deliverOut_frame c event rest).2.1] at hw
    exact h (inSession_select hp) ep w hw
  | controlFlush command urb remaining endpoint v hp hv =>
    have hruns := h (inSession_serving hp)
    refine forall_update_some (fun ep w _ hw => hruns ep w hw) ?_ ep w hw
    exact (hruns _ v hv).push fun _ hc => nomatch hc
  | controlFailed a command urb remaining awaiting endpoint err hp ha =>
    exact h (inSession_serving hp) ep w hw
  | controlPassed command urb remaining endpoint sender v hp hv hr =>
    exact h (inSession_serving hp) ep w hw
  | execute host command urb device hp hd =>
    rw [(execute_frame prof c command urb device host).2.1] at hw
    exact h (inSession_serving hp) ep w hw
  | inFlush endpoint v out o seqnum len hv ho hout hvp =>
    refine forall_update_some (fun ep w _ hw => h hs ep w hw) ?_ ep w hw
    exact (h hs _ o hout).push fun _ hc => nomatch hc
  | inMove endpoint move v v' events hv hst hf hb => exact h hs ep w hw
  | outMove endpoint move v v' events hv hst =>
    exact forall_update_some (fun ep w _ hw => h hs ep w hw)
      ((h hs endpoint v hv).turn (OutWorker.step_turn hst)) ep w hw

/-- An import aborts the IN workers before anything else. -/
def Aborted (c : Connection) : Prop :=
  ∀ remaining, c.phase = .importing remaining → ∀ ep, c.ins ep = none

theorem Aborted.step (h : Aborted c) (he : Effect prof c a t) : Aborted t := by
  intro remaining hp' ep
  cases he with
  | submitIn command w hp hw hd hdir => exact nomatch hp.symm.trans hp'
  | unlinkIn header seqnum endpoint ins hp hseq htold => exact nomatch hp.symm.trans hp'
  | importRequest hp => rfl
  | shutdownSent endpoint remaining' outs hp htold => exact h _ hp ep
  | importDone outcome hp =>
    rw [(importDone_frame c outcome).2.2] at hp'
    cases hp'
  | deliverIn event rest hp he =>
    rw [(deliverIn_outs c event rest).2.2.2, hp] at hp'
    cases hp'
  | deliverOut event rest hp he =>
    rw [(deliverOut_ins c event rest).2.2.2, hp] at hp'
    cases hp'
  | execute host command urb device hp hd =>
    rcases execute_phase prof c command urb device host with hphase | hphase
    · exact nomatch hphase.symm.trans hp'
    · exact nomatch hphase.symm.trans hp'
  | inFlush endpoint w out o seqnum len hw ho hout hwp =>
    exact nomatch hw.symm.trans (h _ hp' endpoint)
  | inMove endpoint move w w' events hw hst hf hb =>
    exact nomatch hw.symm.trans (h _ hp' endpoint)
  | serve command remaining' hp hr hd hn => cases hp'
  | controlFlush command urb remaining' endpoint w hp hw => cases hp'
  | controlFailed a command urb remaining' awaiting endpoint err hp ha => cases hp'
  | controlPassed command urb remaining' endpoint sender w hp hw hr => cases hp'
  | _ => exact h _ hp' ep

end Connection
end Lusbip
