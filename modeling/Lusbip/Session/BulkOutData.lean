import Lusbip.Session.Replies

/-!
# The data of the bulk-OUT endpoints

A bulk-OUT URB is answered when its payload has been handed to the writer of its endpoint, so
nothing of it may be missing from the stream the writer gets, nothing may come twice, and a
URB that is refused must not be in it at all. `Flow` is what holds between the stream and the
worker: the URBs written, then perhaps one whose write failed, then those that wait, are a
subsequence of what was submitted, and the stream is the payloads of the first ones, with a
part of the failed one at its end.

It is kept because the worker takes its commands in order and stops writing with the first
failure. An unlink takes nothing out of the stream, it only keeps the answer back.
-/

namespace Lusbip

open Lib.Transition

/-- The URB that a command submits, with its payload. -/
def BulkOutCommand.payload? : BulkOutCommand → Option (Urb × List UInt8)
  | .submit request => some (request.urb, request.data)
  | _ => none

theorem flush_payload? {sender : Oneshot} : BulkOutCommand.payload? (.flush sender) = none := rfl

namespace OutWorker

variable {w w' : OutWorker} {torn : Urb → Nat}

/-- The URBs that the worker has not settled yet. -/
def waiting (w : OutWorker) : List (Urb × List UInt8) :=
  w.commands.filterMap BulkOutCommand.payload?

theorem waiting_push (w : OutWorker) (command : BulkOutCommand) :
    (w.push command).waiting = w.waiting ++ command.payload?.toList := by
  rw [waiting, waiting, commands_push, List.filterMap_append]
  cases command <;> rfl

/-- A write ends only in its own way. -/
theorem step_of_writing {request : BulkOutRequest} {move : OutMove} {events : List BulkOutEvent}
    (hp : w.phase = .busy (.submit request)) (h : w.step move = some (w', events)) :
    ∃ result, move = .io result ∧ w' = w.endWrite request result ∧
      events = [event request (submitResponse request.data result)] := by
  unfold step at h
  cases move with
  | command => simp [hp] at h
  | io result =>
    simp only [resume, hp] at h
    cases h
    exact ⟨result, rfl, rfl, rfl⟩
  | idleFlush result => simp [hp] at h

/-- Outside of a write, nothing is handed to the writer. -/
theorem handedBy_of_not_writing (hp : ∀ request, w.phase ≠ .busy (.submit request))
    (move : OutMove) : w.handedBy torn move = [] := by
  unfold handedBy
  split
  · exact absurd ‹_› (hp _)
  · exact absurd ‹_› (hp _)
  · rfl

/-! ## The stream of one endpoint -/

/-- What a reply says about the payload of a URB is right: it has been written, or it never
    will be. -/
structure Honest (written waiting : List (Urb × List UInt8)) (urb : Urb)
    (response : UsbIpResponse) : Prop where
  succeeded : response.submitStatus? = some 0 →
    ∃ data, (urb, data) ∈ written ∧
      response.actualLength? = some (UInt32.ofNat data.length)
  refused : ∀ status, response.submitStatus? = some status → status ≠ 0 →
    urb ∉ (written ++ waiting).map Prod.fst

/-- The stream `handed` to the writer, and what becomes of the URBs `sent` to the worker. -/
structure Flow (sent : List (Urb × List UInt8)) (handed : List UInt8)
    (answers : Urb → UsbIpResponse → Prop) (w : OutWorker) (written : List (Urb × List UInt8))
    (failed : Option (Urb × List UInt8)) (part : List UInt8) : Prop where
  order : (written ++ (failed.toList ++ w.waiting)).Sublist sent
  bytes : handed = written.flatMap Prod.snd ++ part
  ofFailed : part ≠ [] → ∃ p ∈ failed, part <+: p.2
  healthy : w.health = none → failed = none ∧ part = []
  busy : ∀ command, w.phase = .busy command → w.health = none
  honest : ∀ urb response, answers urb response → Honest written w.waiting urb response

variable {sent sent' : List (Urb × List UInt8)} {handed : List UInt8}
  {answers answers' : Urb → UsbIpResponse → Prop} {written : List (Urb × List UInt8)}
  {failed : Option (Urb × List UInt8)} {part : List UInt8}

theorem flow_start (sent : List (Urb × List UInt8)) (address : UInt8)
    (h : ∀ urb response, ¬ answers urb response) :
    Flow sent [] answers { address := address } [] none [] :=
  ⟨List.nil_sublist _, rfl, fun hn => absurd rfl hn, fun _ => ⟨rfl, rfl⟩, fun _ h => (nomatch h),
    fun urb response ha => absurd ha (h urb response)⟩

/-- More may be submitted elsewhere, and fewer answers be looked at. -/
theorem Flow.mono (h : Flow sent handed answers w written failed part) (hs : sent.Sublist sent')
    (ha : ∀ urb response, answers' urb response → answers urb response) :
    Flow sent' handed answers' w written failed part :=
  ⟨h.order.trans hs, h.bytes, h.ofFailed, h.healthy, h.busy,
    fun urb response hr => h.honest urb response (ha urb response hr)⟩

/-- A command enters the queue. A URB that it submits is new. -/
theorem Flow.push (h : Flow sent handed answers w written failed part) (command : BulkOutCommand)
    (hnew : ∀ p, command.payload? = some p → ∀ response, ¬ answers p.1 response) :
    Flow (sent ++ command.payload?.toList) handed answers (w.push command) written failed
      part where
  order := by
    rw [waiting_push, ← List.append_assoc, ← List.append_assoc]
    refine List.Sublist.append ?_ (List.Sublist.refl _)
    rw [List.append_assoc]
    exact h.order
  bytes := h.bytes
  ofFailed := h.ofFailed
  healthy := h.healthy
  busy := h.busy
  honest urb response ha := by
    obtain ⟨hsucceeded, hrefused⟩ := h.honest urb response ha
    refine ⟨hsucceeded, fun status hs hne hm => ?_⟩
    rw [waiting_push, ← List.append_assoc, List.map_append] at hm
    rcases List.mem_append.mp hm with hm | hm
    · exact hrefused status hs hne hm
    · obtain ⟨p, hp, rfl⟩ := List.mem_map.mp hm
      exact hnew p (Option.mem_toList.mp hp) response ha

/-! ## A step of the worker -/

/-- The worker does something else than to settle a URB, or drops what waits. -/
theorem Flow.pass (h : Flow sent handed answers w written failed part)
    (hw : w'.waiting.Sublist w.waiting) (hh : w'.health = none → w.health = none)
    (hb : ∀ command, w'.phase = .busy command → w'.health = none) :
    Flow sent handed answers w' written failed part where
  order := ((hw.append_left _).append_left _).trans h.order
  bytes := h.bytes
  ofFailed := h.ofFailed
  healthy hn := h.healthy (hh hn)
  busy := hb
  honest urb response ha := by
    obtain ⟨hsucceeded, hrefused⟩ := h.honest urb response ha
    refine ⟨hsucceeded, fun status hs hne hm => hrefused status hs hne ?_⟩
    exact ((hw.append_left _).map Prod.fst).subset hm

/-- The URB at the head is neither written nor behind itself. -/
theorem Flow.head_fresh (h : Flow sent handed answers w written failed part)
    (hn : (sent.map Prod.fst).Nodup) {urb : Urb} {data : List UInt8}
    {rest : List (Urb × List UInt8)} (hw : w.waiting = (urb, data) :: rest) :
    urb ∉ (written ++ rest).map Prod.fst := by
  have hnodup : ((written ++ (failed.toList ++ w.waiting)).map Prod.fst).Nodup :=
    (h.order.map Prod.fst).nodup hn
  rw [hw] at hnodup
  have hsub : (written ++ ((urb, data) :: rest)).Sublist
      (written ++ (failed.toList ++ (urb, data) :: rest)) :=
    (List.sublist_append_right _ _).append_left _
  have hhead := (hsub.map Prod.fst).nodup hnodup
  rw [List.map_append, List.map_cons, List.nodup_middle] at hhead
  rw [List.map_append]
  exact (List.nodup_cons.mp hhead).1

/-- The URB at the head has been written. -/
theorem Flow.wrote (h : Flow sent handed answers w written failed part) {urb : Urb}
    {data : List UInt8} (hw : w.waiting = (urb, data) :: w'.waiting) (hh : w.health = none)
    (hb : ∀ command, w'.phase = .busy command → w'.health = none) :
    Flow sent (handed ++ data) answers w' (written ++ [(urb, data)]) none [] where
  order := by
    have horder := h.order
    rw [(h.healthy hh).1, hw] at horder
    simpa using horder
  bytes := by
    rw [h.bytes, (h.healthy hh).2, List.flatMap_append]
    simp
  ofFailed hne := absurd rfl hne
  healthy _ := ⟨rfl, rfl⟩
  busy := hb
  honest u response ha := by
    obtain ⟨hsucceeded, hrefused⟩ := h.honest u response ha
    refine ⟨fun hs => ?_, fun status hs hne => ?_⟩
    · obtain ⟨payload, hm, hlen⟩ := hsucceeded hs
      exact ⟨payload, List.mem_append_left _ hm, hlen⟩
    · have := hrefused status hs hne
      rw [hw] at this
      simpa using this

/-- The write of the URB at the head has failed, after a part of it. -/
theorem Flow.tore (h : Flow sent handed answers w written failed part) {urb : Urb}
    {data : List UInt8} (hw : w.waiting = (urb, data) :: w'.waiting) (hh : w.health = none)
    (hh' : w'.health ≠ none) (hb : ∀ command, w'.phase ≠ .busy command) (n : Nat) :
    Flow sent (handed ++ data.take n) answers w' written (some (urb, data)) (data.take n) where
  order := by
    have horder := h.order
    rw [(h.healthy hh).1, hw] at horder
    exact horder
  bytes := by
    rw [h.bytes, (h.healthy hh).2, List.append_nil]
  ofFailed _ := ⟨(urb, data), rfl, List.take_prefix n data⟩
  healthy hn := absurd hn hh'
  busy command hc := absurd hc (hb command)
  honest u response ha := by
    obtain ⟨hsucceeded, hrefused⟩ := h.honest u response ha
    refine ⟨hsucceeded, fun status hs hne hm => hrefused status hs hne ?_⟩
    rw [hw, List.map_append, List.map_cons]
    rw [List.map_append] at hm
    exact (List.mem_append.mp hm).elim (List.mem_append_left _)
      fun hm => List.mem_append_right _ (List.mem_cons_of_mem _ hm)

theorem honest_of_refused {waiting : List (Urb × List UInt8)} {urb : Urb}
    {header : UsbIpHeaderBasic} (h : urb ∉ (written ++ waiting).map Prod.fst) :
    Honest written waiting urb (.usbipRetSubmitFail header 0) :=
  ⟨fun hs => (nomatch hs), fun _ _ _ => h⟩

/-- More answers may come, if they are right. -/
theorem Flow.answer (h : Flow sent handed answers w written failed part)
    (ha : ∀ urb response, answers' urb response →
      answers urb response ∨ Honest written w.waiting urb response) :
    Flow sent handed answers' w written failed part :=
  ⟨h.order, h.bytes, h.ofFailed, h.healthy, h.busy,
    fun urb response hr => (ha urb response hr).elim (h.honest urb response) id⟩

/-- **What a step of the worker does to the stream.** -/
theorem Flow.step (h : Flow sent handed answers w written failed part)
    (hn : (sent.map Prod.fst).Nodup) {move : OutMove} {events : List BulkOutEvent}
    (hs : w.step move = some (w', events)) :
    ∃ written' failed' part',
      Flow sent (handed ++ w.handedBy torn move) answers w' written' failed' part' ∧
      ∀ event ∈ events, Honest written' w'.waiting event.urb event.response := by
  -- Bytes are handed to the writer only while a submit is written.
  by_cases hp : ∃ request, w.phase = .busy (.submit request)
  · obtain ⟨request, hp⟩ := hp
    obtain ⟨result, rfl, rfl, rfl⟩ := step_of_writing hp hs
    have hh := h.busy _ hp
    have hw : w.waiting = (request.urb, request.data) ::
        (w.endWrite request result).waiting := by
      rw [waiting, commands_of_busy hp]
      cases result <;> rfl
    have hfresh := h.head_fresh hn hw
    have hbusy : ∀ command, (w.endWrite request result).phase ≠ .busy command := by
      intro command
      cases result <;> exact fun hc => nomatch hc
    cases result with
    | ok u =>
      have hbytes : w.handedBy torn (.io (.ok u)) = request.data := by
        simp only [handedBy, hp]
      rw [hbytes]
      refine ⟨_, _, _, h.wrote hw hh fun command hc => absurd hc (hbusy command), ?_⟩
      intro e he
      rw [List.mem_singleton.mp he]
      refine ⟨fun _ => ⟨request.data, List.mem_append_right _ List.mem_cons_self, rfl⟩,
        fun status hs hne => ?_⟩
      exact absurd (Option.some.inj hs).symm hne
    | error err =>
      have hbytes : w.handedBy torn (.io (.error err)) = request.data.take (torn request.urb) := by
        simp only [handedBy, hp]
      rw [hbytes]
      refine ⟨_, _, _, h.tore hw hh (fun hc => nomatch hc) hbusy _, ?_⟩
      intro event he
      rw [List.mem_singleton.mp he]
      exact honest_of_refused hfresh
  · have hp' : ∀ request, w.phase ≠ .busy (.submit request) := fun r hr => hp ⟨r, hr⟩
    -- Otherwise nothing is handed over, and an event can only be a refusal.
    rw [handedBy_of_not_writing hp', List.append_nil]
    have ht := step_turn hs
    have hbusy : ∀ command, w'.phase = .busy command → w'.health = none :=
      fun command => ht.busy h.busy
    refine ⟨written, failed, part, ?_, ?_⟩
    · exact h.pass (ht.moves.commands.filterMap _) ht.healthy hbusy
    · intro event he
      cases ht with
      | rejected request queue err hp hq hh =>
        rw [List.mem_singleton.mp he]
        have hw : w.waiting = (request.urb, request.data) ::
            waiting { w with queue := queue } := by
          rw [waiting, waiting, commands_of_receiving hp,
            commands_of_receiving (w := { w with queue := queue }) hp, hq]
          rfl
        exact honest_of_refused (h.head_fresh hn hw)
      | written request result hp => exact absurd hp (hp' request)
      | _ => cases he

end OutWorker

/-! ## The endpoints of a session -/

/-- A bulk-OUT endpoint of the device, with a worker. -/
structure Connection.BulkOut (c : Connection) (endpoint : UInt8) : Prop where
  worker : c.outs endpoint ≠ none
  descriptor : ∃ device ep intf, c.device = some device ∧
    device.findEp endpoint = some (ep, intf) ∧ ep.attributes = EndpointAttributes.bulk.toU8 ∧
    ep.direction = .out

namespace Connection

variable {prof : Profile} {c t : Connection} {a : Action}

/-- A URB that is no OUT URB does not go there. -/
theorem not_bulkOut_of_in {header : UsbIpHeaderBasic} (h : header.direction ≠ 0) :
    ¬ c.BulkOut (realEp header) := by
  rintro ⟨-, device, ep, intf, -, hep, -, hdir⟩
  rw [UsbEndpoint.direction, UsbDevice.findEp_address hep, realEp_in h] at hdir
  cases hdir

/-- The handler does not serve the URBs of a running worker. -/
theorem not_bulkOut_of_serve {command : SubmitCommand} (hr : Running c) (hp : c.phase = .select)
    (hn : ∀ device endpoint intf w, c.device = some device →
      device.findEp (realEp command.header) = some (endpoint, intf) →
      usesBulkOutWorker endpoint.attributes command.header.direction = true →
      c.outs (realEp command.header) = some w → w.phase = .stopped) :
    ¬ c.BulkOut (realEp command.header) := by
  intro hb
  by_cases hdir : command.header.direction = 0
  · obtain ⟨hworker, device, ep, intf, hd, hep, hattr, -⟩ := hb
    obtain ⟨w, hw⟩ := Option.ne_none_iff_exists'.mp hworker
    have huse : usesBulkOutWorker ep.attributes command.header.direction = true := by
      simp [usesBulkOutWorker, hattr, hdir]
    exact (hr (inSession_select hp) _ w hw).phase (hn device ep intf w hd hep huse hw)
  · exact not_bulkOut_of_in hdir hb

end Connection

namespace Chronicle

variable {prof : Profile} {torn : Urb → Nat} {s t : Chronicle} {a : Action} {endpoint : UInt8}

/-- What is answered, or about to be, to a URB of the endpoint in the session. -/
def Answered (s : Chronicle) (endpoint : UInt8) (urb : Urb) (response : UsbIpResponse) : Prop :=
  urb.session = s.conn.session ∧ urb.ep = endpoint ∧
    ((∃ event ∈ s.conn.outEvents, event.urb = urb ∧ event.response = response) ∨
      ∃ n source, .submit n urb source response ∈ s.conn.wire)

/-- Every bulk-OUT endpoint has its stream. -/
structure Streams (s : Chronicle) : Prop where
  traced : Traced (fun _ _ => True) s
  dated : Dated s
  running : s.conn.Running
  serving : ∀ command urb remaining awaiting,
    s.conn.phase = .serving command urb remaining awaiting → ¬ s.conn.BulkOut urb.ep
  flows : ∀ ep w, s.conn.BulkOut ep → s.conn.outs ep = some w →
    ∃ written failed part, w.Flow (s.sent ep) (s.handed ep) (s.Answered ep) written failed part

/-- A step of the connection that leaves the streams alone: the workers are told nothing but
    what submits no URB, and the replies are those of events, or of other endpoints. -/
structure Quiet (c t : Connection) : Prop where
  session : t.session = c.session
  device : t.device = c.device
  outs : ∀ ep w, t.outs ep = some w → ∃ v, c.outs ep = some v ∧
    (w = v ∨ ∃ command : BulkOutCommand, command.payload? = none ∧ w = v.push command)
  outEvents : t.outEvents ⊆ c.outEvents
  wire : ∀ n urb source response, .submit n urb source response ∈ t.wire →
    .submit n urb source response ∈ c.wire ∨
      (∃ event ∈ c.outEvents, event.urb = urb ∧ event.response = response) ∨ ¬ c.BulkOut urb.ep

variable {c c' : Connection}

theorem bulkOut_of_outs (hd : c'.device = c.device)
    (ho : ∀ ep w, c'.outs ep = some w → ∃ v, c.outs ep = some v) (hb : c'.BulkOut endpoint) :
    c.BulkOut endpoint := by
  obtain ⟨hworker, hdesc⟩ := hb
  obtain ⟨w, hw⟩ := Option.ne_none_iff_exists'.mp hworker
  obtain ⟨v, hv⟩ := ho endpoint w hw
  refine ⟨fun hn => ?_, hd ▸ hdesc⟩
  rw [hv] at hn
  cases hn

theorem bulkOut_of_update {ep : UInt8} {w w' : OutWorker} (hd : c'.device = c.device)
    (ho : c'.outs = Function.update c.outs endpoint (some w')) (hw : c.outs endpoint = some w)
    (hb : c'.BulkOut ep) : c.BulkOut ep := by
  refine bulkOut_of_outs hd (fun e u hu => ?_) hb
  rw [ho] at hu
  exact Connection.forall_update_some (P := fun e _ => ∃ v, c.outs e = some v)
    (fun _ u _ hu => ⟨u, hu⟩) ⟨w, hw⟩ e u hu

theorem Quiet.bulkOut (h : Quiet c c') (hb : c'.BulkOut endpoint) : c.BulkOut endpoint :=
  bulkOut_of_outs h.device (fun ep w hw => (h.outs ep w hw).imp fun _ hv => hv.1) hb

/-- Nothing is told to an OUT worker. -/
theorem quiet_of_outs (hs : c'.session = c.session) (hd : c'.device = c.device)
    (ho : c'.outs = c.outs) (he : c'.outEvents ⊆ c.outEvents)
    (hw : ∀ n urb source response, .submit n urb source response ∈ c'.wire →
      .submit n urb source response ∈ c.wire ∨
        (∃ event ∈ c.outEvents, event.urb = urb ∧ event.response = response) ∨
        ¬ c.BulkOut urb.ep) : Quiet c c' :=
  ⟨hs, hd, fun _ w h => ⟨w, ho ▸ h, Or.inl rfl⟩, he, hw⟩

/-- A worker is told a command that submits nothing. -/
theorem quiet_of_told {command : BulkOutCommand} (hc : command.payload? = none)
    (ht : Connection.ToldOut c.outs endpoint command c'.outs) (hs : c'.session = c.session)
    (hd : c'.device = c.device) (he : c'.outEvents = c.outEvents)
    (hw : ∀ n urb source response, .submit n urb source response ∈ c'.wire →
      .submit n urb source response ∈ c.wire) : Quiet c c' := by
  refine ⟨hs, hd, fun ep w h => ?_, he ▸ List.Subset.refl _,
    fun n urb source response h => Or.inl (hw n urb source response h)⟩
  obtain ⟨v, hv, hwv⟩ := ht.pushed ep w h
  exact ⟨v, hv, hwv.imp id fun hwv => ⟨command, hc, hwv⟩⟩

theorem sent_append (s : Chronicle) (c : Connection) (hs : c.session = s.conn.session)
    (new : List (Urb × SubmitCommand)) (handed : UInt8 → List UInt8) (endpoint : UInt8) :
    (Chronicle.mk c (s.submits ++ new) handed).sent endpoint = s.sent endpoint ++
      (new.filter fun p => p.1.session = s.conn.session ∧ p.1.ep = endpoint).map
        fun p => (p.1, p.2.data) := by
  simp only [sent, hs, List.filter_append, List.map_append]

/-- The stream of an endpoint after a quiet step. -/
theorem Streams.flow_of_quiet (h : Streams s) {new : List (Urb × SubmitCommand)}
    (hq : Quiet s.conn c) (ep : UInt8) (w : OutWorker) (hb : c.BulkOut ep)
    (hw : c.outs ep = some w) :
    ∃ written failed part, w.Flow ((Chronicle.mk c (s.submits ++ new) s.handed).sent ep)
      (s.handed ep) ((Chronicle.mk c (s.submits ++ new) s.handed).Answered ep) written failed
      part := by
  obtain ⟨v, hv, hvw⟩ := hq.outs ep w hw
  have hb' := hq.bulkOut hb
  obtain ⟨written, failed, part, hf⟩ := h.flows ep v hb' hv
  have hsent : (s.sent ep).Sublist ((Chronicle.mk c (s.submits ++ new) s.handed).sent ep) := by
    rw [sent_append s c hq.session]
    exact List.sublist_append_left _ _
  have hanswered : ∀ urb response,
      (Chronicle.mk c (s.submits ++ new) s.handed).Answered ep urb response →
        s.Answered ep urb response := by
    rintro urb response ⟨hsession, hep, ha⟩
    refine ⟨hsession.trans hq.session, hep, ?_⟩
    rcases ha with ⟨event, he, hev⟩ | ⟨n, source, hr⟩
    · exact Or.inl ⟨event, hq.outEvents he, hev⟩
    · rcases hq.wire n urb source response hr with hr | he | hno
      · exact Or.inr ⟨n, source, hr⟩
      · exact Or.inl he
      · exact absurd (hep ▸ hb') hno
  refine ⟨written, failed, part, ?_⟩
  rcases hvw with rfl | ⟨command, hc, rfl⟩
  · exact hf.mono hsent hanswered
  · have hpush := hf.push command fun p hp => by rw [hc] at hp; cases hp
    rw [hc, Option.toList_none, List.append_nil] at hpush
    exact hpush.mono hsent hanswered

/-- The URBs of an endpoint are distinct. -/
theorem Dated.sent_nodup (h : Dated s) (endpoint : UInt8) :
    ((s.sent endpoint).map Prod.fst).Nodup := by
  have hmap : (s.sent endpoint).map Prod.fst =
      (s.submits.filter fun p => p.1.session = s.conn.session ∧ p.1.ep = endpoint).map
        Prod.fst := by
    rw [sent, List.map_map]
    rfl
  rw [hmap]
  refine List.pairwise_map.mpr ((h.order.filter _).imp fun hlt heq => ?_)
  rw [heq] at hlt
  exact Nat.lt_irrefl _ hlt

theorem Streams.of_quiet (h : Streams s) (ht : step prof torn s a = some t)
    (hq : Quiet s.conn t.conn) (hh : s.handedAfter torn a = s.handed)
    (hserving : ∀ command urb remaining awaiting,
      t.conn.phase = .serving command urb remaining awaiting →
        (∃ remaining' awaiting', s.conn.phase = .serving command urb remaining' awaiting') ∨
          ¬ s.conn.BulkOut urb.ep) : Streams t := by
  have htraced := h.traced.step admits_true (makes_true prof s a) ht
  have hdated := h.dated.step ht
  obtain ⟨c, submits, handed⟩ := t
  obtain ⟨he, rfl, rfl⟩ : Connection.Effect prof s.conn a c ∧
    submits = s.submits ++ dispatchedBy s.conn a ∧ handed = s.handedAfter torn a := step_eq_some ht
  refine ⟨htraced, hdated, h.running.step he, ?_, fun ep w hb hw => ?_⟩
  · intro command urb remaining awaiting hp hb
    rcases hserving command urb remaining awaiting hp with ⟨r, aw, hp⟩ | hno
    · exact h.serving command urb r aw hp (hq.bulkOut hb)
    · exact hno (hq.bulkOut hb)
  · rw [hh]
    exact h.flow_of_quiet hq ep w hb hw

/-- A URB goes into the queue of a worker. -/
theorem Streams.submitted (h : Streams s) {command : SubmitCommand} {w : OutWorker}
    (ht : step prof torn s (.submit command) = some t) (hd : s.conn.device ≠ none)
    (hw : s.conn.outs (realEp command.header) = some w)
    (houts : t.conn.outs = Function.update s.conn.outs (realEp command.header)
      (some (w.push (.submit ⟨command.header, command.data, s.conn.bulkOutGeneration,
        s.conn.urbOf command⟩))))
    (hsession : t.conn.session = s.conn.session) (hdevice : t.conn.device = s.conn.device)
    (hevents : t.conn.outEvents = s.conn.outEvents) (hwire : t.conn.wire = s.conn.wire) :
    ∀ ep v, t.conn.BulkOut ep → t.conn.outs ep = some v →
      ∃ written failed part, v.Flow (t.sent ep) (t.handed ep) (t.Answered ep) written failed
        part := by
  obtain ⟨c, submits, handed⟩ := t
  obtain ⟨-, rfl, rfl⟩ : Connection.Effect prof s.conn (.submit command) c ∧
    submits = s.submits ++ dispatchedBy s.conn (.submit command) ∧ handed = s.handed :=
    step_eq_some ht
  have hdisp := dispatchedBy_submit hd command
  intro ep v hb hv
  have hanswered : ∀ urb response,
      (Chronicle.mk c (s.submits ++ dispatchedBy s.conn (.submit command)) s.handed).Answered ep
        urb response → s.Answered ep urb response := by
    rintro urb response ⟨hs, hep, ha⟩
    exact ⟨hs.trans hsession, hep, hevents ▸ hwire ▸ ha⟩
  have hb' : s.conn.BulkOut ep := bulkOut_of_update hdevice houts hw hb
  rw [sent_append s c hsession, hdisp]
  by_cases hep : ep = realEp command.header
  · subst hep
    rw [houts, Function.update_self, Option.some.injEq] at hv
    subst hv
    obtain ⟨written, failed, part, hf⟩ := h.flows _ w hb' hw
    -- The URB is new: no answer to it can be on its way.
    have hnew : ∀ response,
        ¬ s.Answered (realEp command.header) (s.conn.urbOf command) response := by
      rintro response ⟨-, -, ha⟩
      have hmem : ∃ command', (s.conn.urbOf command, command') ∈ s.submits := by
        rcases ha with ⟨event, he, hurb, -⟩ | ⟨n, source, hr⟩
        · obtain ⟨command', hm, -⟩ := h.traced.outEvents event he
          exact ⟨command', hurb ▸ hm⟩
        · obtain ⟨command', hm, -⟩ := h.traced.wire _ _ _ _ hr
          exact ⟨command', hm⟩
      obtain ⟨command', hm⟩ := hmem
      exact absurd (h.dated.index _ hm) (Nat.lt_irrefl _)
    refine ⟨written, failed, part, (hf.push _ fun p hp => ?_).mono ?_ hanswered⟩
    · cases hp
      exact hnew
    · simp [BulkOutCommand.payload?, Connection.urbOf]
  · rw [houts, Function.update_of_ne hep] at hv
    obtain ⟨written, failed, part, hf⟩ := h.flows ep v hb' hv
    exact ⟨written, failed, part, hf.mono (List.sublist_append_left _ _) hanswered⟩

/-- A worker takes a step. -/
theorem Streams.moved (h : Streams s) {move : OutMove} {w w' : OutWorker}
    {events : List BulkOutEvent} (hw : s.conn.outs endpoint = some w)
    (hs : w.step move = some (w', events)) :
    let t : Chronicle :=
      { conn := { s.conn with
          outs := Function.update s.conn.outs endpoint (some w')
          outEvents := s.conn.outEvents ++ events }
        submits := s.submits
        handed := Function.update s.handed endpoint (s.handed endpoint ++ w.handedBy torn move) }
    ∀ ep v, t.conn.BulkOut ep → t.conn.outs ep = some v →
      ∃ written failed part, v.Flow (t.sent ep) (t.handed ep) (t.Answered ep) written failed
        part := by
  intro t ep v hb hv
  have hdevice : t.conn.device = s.conn.device := rfl
  have hb' : s.conn.BulkOut ep := bulkOut_of_update hdevice rfl hw hb
  -- The events are of the worker's own endpoint.
  have hown : ∀ event ∈ events, event.urb.ep = endpoint := fun event he =>
    (h.traced.outEvents_own hw (OutWorker.step_turn hs) event he).2
  have hanswered : ∀ urb response, t.Answered ep urb response → s.Answered ep urb response ∨
      ep = endpoint ∧ ∃ event ∈ events, event.urb = urb ∧ event.response = response := by
    rintro urb response ⟨hsession, hep, ha⟩
    rcases ha with ⟨event, he, hurb, hresponse⟩ | hr
    · rcases List.mem_append.mp he with he | he
      · exact Or.inl ⟨hsession, hep, Or.inl ⟨event, he, hurb, hresponse⟩⟩
      · refine Or.inr ⟨?_, event, he, hurb, hresponse⟩
        rw [← hep, ← hurb, hown event he]
    · exact Or.inl ⟨hsession, hep, Or.inr hr⟩
  by_cases hep : ep = endpoint
  · subst hep
    obtain rfl : w' = v := by
      replace hv : Function.update s.conn.outs ep (some w') ep = some v := hv
      rwa [Function.update_self, Option.some.injEq] at hv
    have hhanded : t.handed ep = s.handed ep ++ w.handedBy torn move := Function.update_self ..
    obtain ⟨written, failed, part, hf⟩ := h.flows ep w hb' hw
    obtain ⟨written', failed', part', hf', hev⟩ := hf.step (h.dated.sent_nodup ep) hs
    rw [hhanded]
    refine ⟨written', failed', part', hf'.answer fun urb response ha => ?_⟩
    rcases hanswered urb response ha with ha | ⟨-, event, he, rfl, rfl⟩
    · exact Or.inl ha
    · exact Or.inr (hev event he)
  · have hv' : s.conn.outs ep = some v := by
      replace hv : Function.update s.conn.outs endpoint (some w') ep = some v := hv
      rwa [Function.update_of_ne hep] at hv
    have hhanded : t.handed ep = s.handed ep := Function.update_of_ne hep ..
    obtain ⟨written, failed, part, hf⟩ := h.flows ep v hb' hv'
    rw [hhanded]
    refine ⟨written, failed, part, hf.mono (List.Sublist.refl _) fun urb response ha => ?_⟩
    exact (hanswered urb response ha).resolve_right fun hno => hep hno.1

/-- An import begins new streams. -/
theorem Streams.imported (h : Streams s) (outcome : ImportOutcome) (handed : UInt8 → List UInt8)
    (hh : ∀ ep, handed ep = []) :
    let t := Chronicle.mk (s.conn.importDone outcome) s.submits handed
    ∀ ep v, t.conn.outs ep = some v →
      ∃ written failed part, v.Flow (t.sent ep) (t.handed ep) (t.Answered ep) written failed
        part := by
  intro t ep v hv
  have hhanded : t.handed ep = [] := hh ep
  rw [Connection.importDone_outs hv, hhanded]
  refine ⟨[], none, [], OutWorker.flow_start _ _ ?_⟩
  rintro urb response ⟨hsession, -, ha⟩
  replace hsession : urb.session = s.conn.session + 1 :=
    hsession.trans (Connection.importDone_session outcome)
  have hmem : ∃ command, (urb, command) ∈ s.submits := by
    rcases ha with ⟨event, he, rfl, -⟩ | ⟨n, source, hr⟩
    · replace he : event ∈ (s.conn.importDone outcome).outEvents := he
      rw [(Connection.importDone_frame s.conn outcome).2.1] at he
      obtain ⟨command, hm, -⟩ := h.traced.outEvents event he
      exact ⟨command, hm⟩
    · rcases Connection.importDone_wire hr with hr | ⟨n', response', heq⟩
      · obtain ⟨command, hm, -⟩ := h.traced.wire _ _ _ _ hr
        exact ⟨command, hm⟩
      · cases heq
  obtain ⟨command, hm⟩ := hmem
  have hold : urb.session ≤ s.conn.session := h.dated.session _ hm
  omega

theorem streams_init : Streams {} where
  traced := traced_init
  dated := dated_init
  running := Connection.running_init
  serving _ _ _ _ h := nomatch h
  flows _ _ _ h := nomatch h

/-- A reply to a URB that no OUT worker had. -/
theorem Streams.not_bulkOut_of_inEvent (h : Streams s) {event : BulkInEvent}
    (he : event ∈ s.conn.inEvents) : ¬ s.conn.BulkOut event.urb.ep := by
  obtain ⟨command, hm, -, hdir⟩ := h.traced.inEvents event he
  have hdir' : command.header.direction = 1 := hdir 1 rfl
  have hep : event.urb.ep = realEp command.header := h.traced.eps _ hm
  rw [hep]
  refine Connection.not_bulkOut_of_in ?_
  rw [hdir']
  decide

/-- **The step lemma.** Three kinds of steps touch the streams: a URB for a worker, a step of
    a worker, and an import. -/
theorem Streams.step (h : Streams s) (ht : step prof torn s a = some t) : Streams t := by
  have htraced := h.traced.step admits_true (makes_true prof s a) ht
  have hdated := h.dated.step ht
  have hstep := ht
  obtain ⟨c, submits, handed⟩ := t
  obtain ⟨he, rfl, rfl⟩ : Connection.Effect prof s.conn a c ∧
    submits = s.submits ++ dispatchedBy s.conn a ∧ handed = s.handedAfter torn a := step_eq_some ht
  have hrunning := h.running.step he
  cases he with
  -- Most steps leave the OUT workers, their events and the replies to OUT URBs alone.
  | ignored command hd hp =>
    exact h.of_quiet ht (quiet_of_outs rfl rfl rfl (List.Subset.refl _) fun _ _ _ _ => Or.inl) rfl
      fun _ _ _ _ hp' => Or.inl ⟨_, _, hp'⟩
  | submitIn command w hp hw hd hdir =>
    exact h.of_quiet ht (quiet_of_outs rfl rfl rfl (List.Subset.refl _) fun _ _ _ _ => Or.inl) rfl
      fun _ _ _ _ hp' => Or.inl ⟨_, _, hp'⟩
  -- Three steps do more: a submit joins its worker's line,
  | submitOut command w hp hw hd hdir =>
    refine ⟨htraced, hdated, hrunning, ?_, h.submitted hstep hd hw rfl rfl rfl rfl rfl⟩
    intro command' urb remaining awaiting hp'
    rw [hp] at hp'
    cases hp'
  | serve command remaining hp hr hd hn =>
    refine h.of_quiet ht (quiet_of_outs rfl rfl rfl (List.Subset.refl _) fun _ _ _ _ => Or.inl) rfl
      fun command' urb remaining' awaiting hp' => Or.inr ?_
    cases hp'
    exact Connection.not_bulkOut_of_serve h.running hp hn
  | unlinkIn header seqnum endpoint ins hp hseq htold =>
    exact h.of_quiet ht (quiet_of_outs rfl rfl rfl (List.Subset.refl _)
      fun _ _ _ _ hr => Or.inl (mem_wire_of_unlink hr)) rfl fun _ _ _ _ hp' => Or.inl ⟨_, _, hp'⟩
  | unlinkOut header seqnum endpoint outs hp hseq htold =>
    exact h.of_quiet ht (quiet_of_told rfl htold rfl rfl rfl
      fun _ _ _ _ hr => mem_wire_of_unlink hr) rfl fun _ _ _ _ hp' => Or.inl ⟨_, _, hp'⟩
  | unlinkUnknown header seqnum hp =>
    exact h.of_quiet ht (quiet_of_outs rfl rfl rfl (List.Subset.refl _)
      fun _ _ _ _ hr => Or.inl (mem_wire_of_unlink hr)) rfl fun _ _ _ _ hp' => Or.inl ⟨_, _, hp'⟩
  | importRequest hp =>
    exact h.of_quiet ht (quiet_of_outs rfl rfl rfl (List.Subset.refl _) fun _ _ _ _ => Or.inl) rfl
      fun _ _ _ _ hp' => nomatch hp'
  | shutdownSent endpoint remaining outs hp htold =>
    exact h.of_quiet ht (quiet_of_told rfl htold rfl rfl rfl fun _ _ _ _ => id) rfl
      fun _ _ _ _ hp' => nomatch hp'
  -- a new session starts with new workers,
  | importDone outcome hp =>
    refine ⟨htraced, hdated, hrunning, ?_, ?_⟩
    · intro command urb remaining awaiting hp'
      rw [(Connection.importDone_frame s.conn outcome).2.2] at hp'
      cases hp'
    · intro ep w hb hw
      have := h.imported outcome (fun _ => []) (fun _ => rfl) ep w hw
      rwa [← List.append_nil s.submits] at this
  | deliverIn event rest hp he =>
    obtain ⟨houts, hevents, hdevice, hphase⟩ := Connection.deliverIn_outs s.conn event rest
    refine h.of_quiet ht (quiet_of_outs (Connection.deliverIn_clock event rest).2 hdevice houts
      (hevents ▸ List.Subset.refl _) fun n urb source response hr => ?_) rfl ?_
    · rw [Connection.deliverIn_wire] at hr
      refine (List.mem_append.mp hr).imp id fun hr => Or.inr ?_
      split at hr
      · cases List.mem_singleton.mp hr
        exact h.not_bulkOut_of_inEvent (he ▸ List.mem_cons_self)
      · cases hr
    · exact fun _ _ _ _ hp' => Or.inl ⟨_, _, hphase ▸ hp'⟩
  | deliverOut event rest hp he =>
    obtain ⟨hrest, houts, hsession⟩ := Connection.deliverOut_frame s.conn event rest
    obtain ⟨-, -, hdevice, hphase⟩ := Connection.deliverOut_ins s.conn event rest
    refine h.of_quiet ht (quiet_of_outs hsession hdevice houts ?_
      fun n urb source response hr => ?_) rfl ?_
    · exact fun e hm => he ▸ List.mem_cons_of_mem _ (hrest ▸ hm)
    · refine (Connection.deliverOut_wire hr).imp id fun heq => Or.inl ?_
      cases heq
      exact ⟨event, he ▸ List.mem_cons_self, rfl, rfl⟩
    · exact fun _ _ _ _ hp' => Or.inl ⟨_, _, hphase ▸ hp'⟩
  | controlFlush command urb remaining endpoint w hp hw =>
    refine h.of_quiet ht (quiet_of_told flush_payload? (Or.inr ⟨w, hw, rfl⟩) rfl rfl rfl
      fun _ _ _ _ => id) rfl fun _ _ _ _ hp' => ?_
    cases hp'
    exact Or.inl ⟨_, _, hp⟩
  | controlFailed a command urb remaining awaiting endpoint err hp ha =>
    refine h.of_quiet ht (quiet_of_outs rfl rfl rfl (List.Subset.refl _)
      fun n urb' source response hr => ?_) ?_ fun _ _ _ _ hp' => nomatch hp'
    · refine (mem_wire_append hr).imp id fun heq => Or.inr ?_
      cases heq
      exact h.serving _ _ _ _ hp
    · rcases ha with rfl | rfl <;> rfl
  | controlPassed command urb remaining endpoint sender w hp hw hr =>
    refine h.of_quiet ht (quiet_of_outs rfl rfl rfl (List.Subset.refl _) fun _ _ _ _ => Or.inl) rfl
      fun _ _ _ _ hp' => ?_
    cases hp'
    exact Or.inl ⟨_, _, hp⟩
  | execute host command urb device hp hd =>
    obtain ⟨-, houts, -, hevents, hdevice⟩ :=
      Connection.execute_frame prof s.conn command urb device host
    refine h.of_quiet ht (quiet_of_outs (Connection.execute_clock command urb device host).2
      hdevice houts (hevents ▸ List.Subset.refl _) fun n urb' source response hr => ?_) rfl ?_
    · refine (Connection.execute_wire hr).imp id fun heq => Or.inr ?_
      obtain ⟨response', -, heq⟩ := heq
      cases heq
      exact h.serving _ _ _ _ hp
    · intro command' urb' remaining awaiting hp'
      rcases Connection.execute_phase prof s.conn command urb device host with hphase | hphase
      · exact nomatch hphase.symm.trans hp'
      · exact nomatch hphase.symm.trans hp'
  | inFlush endpoint w out o seqnum len hw ho hout hwp =>
    exact h.of_quiet ht (quiet_of_told flush_payload? (Or.inr ⟨o, hout, rfl⟩) rfl rfl
      rfl fun _ _ _ _ => id) rfl fun _ _ _ _ hp' => Or.inl ⟨_, _, hp'⟩
  | inMove endpoint move w w' events hw hst hf hb =>
    refine h.of_quiet ht (quiet_of_outs rfl rfl rfl (List.Subset.refl _) fun _ _ _ _ => Or.inl) ?_
      fun _ _ _ _ hp' => Or.inl ⟨_, _, hp'⟩
    cases move <;> rfl
  -- and a worker moves.
  | outMove endpoint move w w' events hw hst =>
    have hdevice : Connection.device { s.conn with
      outs := Function.update s.conn.outs endpoint (some w')
      outEvents := s.conn.outEvents ++ events } = s.conn.device := rfl
    refine ⟨htraced, hdated, hrunning, ?_, ?_⟩
    · intro command urb remaining awaiting hp' hb
      exact h.serving command urb remaining awaiting hp' (bulkOut_of_update hdevice rfl hw hb)
    · have hhanded : s.handedAfter torn (.outMove endpoint move) =
          Function.update s.handed endpoint (s.handed endpoint ++ w.handedBy torn move) := by
        simp only [handedAfter, hw]
      have hsubmits : s.submits ++ dispatchedBy s.conn (.outMove endpoint move) = s.submits :=
        List.append_nil _
      rw [hhanded, hsubmits]
      exact h.moved hw hst

/-! ## The integrity of the streams -/

/-- The stream of a bulk-OUT endpoint is intact: it is the payloads of the URBs `written`, in
    the order of their commands and each once, followed by a `part` of the payload of the URB
    whose write `failed`, if there is one. The replies tell which URBs are written. -/
structure Intact (s : Chronicle) (endpoint : UInt8) (written : List (Urb × List UInt8))
    (failed : Option (Urb × List UInt8)) (part : List UInt8) : Prop where
  distinct : ((s.sent endpoint).map Prod.fst).Nodup
  order : (written ++ failed.toList).Sublist (s.sent endpoint)
  bytes : s.handed endpoint = written.flatMap Prod.snd ++ part
  ofFailed : part ≠ [] → ∃ p ∈ failed, part <+: p.2
  /-- A payload that came over the socket is shorter than `2 ^ 32`. -/
  succeeded : ∀ n urb source response, .submit n urb source response ∈ s.conn.wire →
    urb.session = s.conn.session → urb.ep = endpoint → response.submitStatus? = some 0 →
    ∃ data len, (urb, data) ∈ written ∧ response.actualLength? = some len ∧
      (data.length < 2 ^ 32 → len.toNat = data.length)
  refused : ∀ n urb source response, .submit n urb source response ∈ s.conn.wire →
    urb.session = s.conn.session → urb.ep = endpoint →
    ∀ status, response.submitStatus? = some status → status ≠ 0 →
      urb ∉ written.map Prod.fst

theorem Streams.intact (h : Streams s) (hb : s.conn.BulkOut endpoint) :
    ∃ written failed part, s.Intact endpoint written failed part := by
  obtain ⟨w, hw⟩ := Option.ne_none_iff_exists'.mp hb.worker
  obtain ⟨written, failed, part, hf⟩ := h.flows endpoint w hb hw
  refine ⟨written, failed, part, h.dated.sent_nodup endpoint, ?_, hf.bytes, hf.ofFailed, ?_, ?_⟩
  · refine List.Sublist.trans ?_ hf.order
    exact (List.sublist_append_left _ _).append_left _
  · intro n urb source response hr hs hep hstatus
    have hhonest := hf.honest urb response ⟨hs, hep, Or.inr ⟨n, source, hr⟩⟩
    obtain ⟨data, hm, hlen⟩ := hhonest.succeeded hstatus
    exact ⟨data, _, hm, hlen, fun hlt => UInt32.toNat_ofNat_of_lt' hlt⟩
  · intro n urb source response hr hs hep status hstatus hne hm
    have hhonest := hf.honest urb response ⟨hs, hep, Or.inr ⟨n, source, hr⟩⟩
    refine hhonest.refused status hstatus hne ?_
    rw [List.map_append]
    exact List.mem_append_left _ hm

/-- **Bulk-OUT streams are intact**, in every state of every run and at every bulk-OUT
    endpoint with a worker. -/
theorem bulkOut_streams_intact (prof : Profile) (torn : Urb → Nat) (acts : List Action) :
    Throughout (Chronicle.step prof torn) (fun s => ∀ endpoint, s.conn.BulkOut endpoint →
      ∃ written failed part, s.Intact endpoint written failed part) {} acts := by
  exact throughout_of_step (fun _ _ _ h ht => Streams.step h ht)
    (fun _ h _ hb => h.intact hb) acts streams_init

end Chronicle
end Lusbip
