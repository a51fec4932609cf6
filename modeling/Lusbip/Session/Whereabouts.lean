import Lusbip.Lib.Placement
import Lusbip.Session.Orphans

/-!
# Where a URB stands

To follow a URB through the program, its number is taken together with its session. Such a key
stands in one place at a time: at a worker, in an event, at the handler, on the wire. `Located`
ties a map of places to all the lists of the program, and says what the books of the handler
may hold for a number in each of the places.

The books know a URB by its number only. So the event of a URB of an earlier session passes for
the URB that has its number now, if there is one; `Unstale` says that there is none.
-/

namespace Lusbip

open Lib.Transition Lib.Placement

/-- A URB, by the session it was submitted in and its number there. -/
structure UrbKey where
  session : Nat
  seqnum : UInt32
  deriving DecidableEq

/-- The URB that a reply is a `RET_SUBMIT` for. -/
def Reply.key? : Reply → Option UrbKey
  | .submit _ urb _ response => response.submitSeqnum?.map (UrbKey.mk urb.session)
  | _ => none

def BulkInEvent.key (event : BulkInEvent) : UrbKey := ⟨event.urb.session, event.seqnum⟩

def BulkOutEvent.key (event : BulkOutEvent) : UrbKey := ⟨event.urb.session, event.seqnum⟩

/-- The URB that the handler serves itself. -/
@[simp] def HandlerPhase.held : HandlerPhase → List UrbKey
  | .serving command urb _ _ => [⟨urb.session, command.header.seqnum⟩]
  | _ => []

namespace Connection

/-! ## What an earlier session has left behind -/

/-- An event of an earlier session that bears the number is still queued, and is not told from
    those of this session; or it was delivered already, and has been written in this session. -/
def Stale (c : Connection) (seqnum : UInt32) : Prop :=
  (∃ event ∈ c.inEvents, event.urb.session ≠ c.session ∧ event.seqnum = seqnum) ∨
  (∃ event ∈ c.outEvents, event.generation = c.bulkOutGeneration ∧
    event.urb.session ≠ c.session ∧ event.seqnum = seqnum) ∨
  ∃ reply ∈ c.wire, reply.session = c.session ∧
    ∃ key ∈ reply.key?, key.session ≠ c.session ∧ key.seqnum = seqnum

instance (c : Connection) (seqnum : UInt32) : Decidable (c.Stale seqnum) :=
  inferInstanceAs (Decidable (_ ∨ _ ∨ _))

/-- No URB is submitted under the number of a stale event. -/
def UsesUnstale (c : Connection) : Action → Prop
  | .submit command => c.device.isSome = true → ¬ c.Stale command.header.seqnum
  | _ => True

instance (c : Connection) : ∀ a : Action, Decidable (c.UsesUnstale a)
  | .submit command => inferInstanceAs (Decidable (_ → ¬ c.Stale command.header.seqnum))
  | .unlink _ _ | .importRequest | .shutdownSent _ | .importDone _ | .deliverIn | .deliverOut
  | .controlFlush _ | .controlResult | .execute _ | .inFlush _ | .inBarrier _ | .inOpened _ _
  | .inCommand _ | .inCompletion _ _ | .outMove _ _ => isTrue trivial

/-! ## Where a URB stands -/

inductive Place where
  | fresh
  | inWorker (endpoint : UInt8)
  | inEvent
  | outWorker (endpoint : UInt8)
  | outEvent
  | handler
  | answered
  | gone
  deriving DecidableEq

def Place.AtIn : Place → Prop
  | .inWorker _ | .inEvent => True
  | _ => False

def Place.AtOut : Place → Prop
  | .outWorker _ | .outEvent => True
  | _ => False

/-- Where a URB that was unlinked can stand. -/
def Place.Withdrawn : Place → Prop
  | .fresh | .handler | .answered => False
  | _ => True

/-- The URBs that have a `RET_SUBMIT`, in whatever session it was written. -/
def answered (c : Connection) : List UrbKey := c.wire.filterMap Reply.key?

/-- The URBs of the session that have the given numbers. -/
def keys (c : Connection) (seqnums : List UInt32) : List UrbKey :=
  seqnums.map (UrbKey.mk c.session)

/-- The URBs held in a place. -/
def listAt (c : Connection) : Place → List UrbKey
  | .inWorker endpoint => c.keys (((c.ins endpoint).map (·.held)).getD [])
  | .inEvent => c.inEvents.map (·.key)
  | .outWorker endpoint => c.keys (((c.outs endpoint).map (·.held)).getD [])
  | .outEvent => c.outEvents.map (·.key)
  | .handler => c.phase.held
  | .answered => c.answered
  | .fresh | .gone => []

/-- What the books of the handler say about a number whose URB of the session stands at `p`. -/
def BookAt (p : Place) (c : Connection) (seqnum : UInt32) : Prop :=
  (c.bulkInSeqnums seqnum ≠ none → p.AtIn) ∧
  (seqnum ∈ c.pendingBulkOut → p.AtOut) ∧
  (Unlinked c.wire c.session seqnum →
    p.Withdrawn ∧ seqnum ∉ c.pendingBulkOut ∧ (p.AtIn → seqnum ∈ c.cancelledBulkInSeqnums))

/-- The URBs in `used` are all that were dispatched, and each stands in its place. -/
structure Located (used : List UrbKey) (place : UrbKey → Place)
    (c : Connection) : Prop where
  lists : ∀ p, Placed place p (c.listAt p)
  fresh : ∀ key ∉ used, place key = .fresh
  books : ∀ seqnum, BookAt (place ⟨c.session, seqnum⟩) c seqnum
  keyed : ∀ endpoint w, c.ins endpoint = some w → w.Keyed
  inEvents : ∀ event ∈ c.inEvents, event.response.submitSeqnum? = some event.seqnum
  outEvents : ∀ event ∈ c.outEvents, event.response.submitSeqnum? = some event.seqnum
  sessions : ∀ reply ∈ c.wire, reply.session ≤ c.session
  exclusive : ∀ session seqnum, Unlinked c.wire session seqnum →
    ¬ Lusbip.Answered c.wire session seqnum

/-- No URB in `used` has its number on a `RET_SUBMIT` for another one in its session, nor on
    an event that would be delivered as its own. -/
structure Unstale (used : List UrbKey) (c : Connection) : Prop where
  inEvents : ∀ event ∈ c.inEvents, event.urb.session ≠ c.session →
    ⟨c.session, event.seqnum⟩ ∉ used
  outEvents : ∀ event ∈ c.outEvents, event.generation = c.bulkOutGeneration →
    event.urb.session ≠ c.session → ⟨c.session, event.seqnum⟩ ∉ used
  wire : ∀ key ∈ used, ∀ reply ∈ c.wire, reply.session = key.session →
    reply.submitSeqnum? = some key.seqnum → reply.key? = some key
  serving : ∀ command urb remaining awaiting,
    c.phase = .serving command urb remaining awaiting → urb.session = c.session

theorem located_init : Located [] (fun _ => .fresh) {} where
  lists p := by
    cases p <;> exact placed_nil _ _
  fresh _ _ := rfl
  books s := by
    refine ⟨fun h => absurd rfl h, fun h => ?_, fun h => ?_⟩
    · simp at h
    · simp [Unlinked] at h
  keyed _ _ h := nomatch h
  inEvents _ h := nomatch h
  outEvents _ h := nomatch h
  sessions _ h := nomatch h
  exclusive n s h := by
    simp [Unlinked] at h

theorem unstale_init : Unstale [] {} :=
  ⟨fun _ h => (nomatch h), fun _ h => (nomatch h), fun _ h => (nomatch h),
    fun _ _ _ _ h => (nomatch h)⟩

variable {prof : Profile} {c t : Connection} {a : Action} {used : List UrbKey}
  {place : UrbKey → Place}

/-! ## Lists after an update -/

theorem count_keys (c : Connection) (seqnums : List UInt32) (key : UrbKey) :
    (c.keys seqnums).count key =
      if key.session = c.session then seqnums.count key.seqnum else 0 := by
  obtain ⟨n, k⟩ := key
  by_cases hn : n = c.session
  · subst hn
    have hinj : Function.Injective (UrbKey.mk c.session) := fun _ _ h => (UrbKey.mk.inj h).2
    rw [if_pos rfl]
    exact List.count_map_of_injective seqnums _ hinj k
  · rw [if_neg hn, List.count_eq_zero]
    intro hm
    obtain ⟨s, -, heq⟩ := List.mem_map.mp hm
    exact hn (UrbKey.mk.inj heq).1.symm

/-- Counts of numbers are counts of keys. -/
theorem count_keys_le {seqnums seqnums' moved : List UInt32}
    (h : ∀ k, moved.count k + seqnums'.count k ≤ seqnums.count k) (key : UrbKey) :
    (c.keys moved).count key + (c.keys seqnums').count key ≤ (c.keys seqnums).count key := by
  rw [count_keys, count_keys, count_keys]
  split
  · exact h key.seqnum
  · exact le_rfl

/-- A number is added to those of a worker. -/
theorem count_keys_push {seqnums seqnums' : List UInt32} {seqnum : UInt32}
    (h : ∀ k, seqnums'.count k ≤ seqnums.count k + [seqnum].count k) (key : UrbKey) :
    (c.keys seqnums').count key ≤
      (c.keys seqnums).count key + [UrbKey.mk c.session seqnum].count key := by
  have hone : [UrbKey.mk c.session seqnum] = c.keys [seqnum] := rfl
  rw [hone, count_keys, count_keys, count_keys]
  split
  · exact h key.seqnum
  · exact le_rfl

theorem listAt_ins {w : InWorker} {endpoint : UInt8} (hw : c.ins endpoint = some w) :
    c.listAt (.inWorker endpoint) = c.keys w.held := by
  simp [listAt, hw]

theorem listAt_outs {w : OutWorker} {endpoint : UInt8} (hw : c.outs endpoint = some w) :
    c.listAt (.outWorker endpoint) = c.keys w.held := by
  simp [listAt, hw]

/-- A URB that is dispatched stands nowhere yet. -/
theorem Located.fresh_absent (h : Located used place c) {key : UrbKey} (hs : key ∉ used) :
    Placed place .fresh [key] := by
  refine ⟨List.nodup_singleton _, fun k hk => ?_⟩
  rw [List.mem_singleton.mp hk]
  exact h.fresh key hs

/-- Dispatching a URB gives no place to those that are not dispatched yet. -/
theorem Located.fresh_dispatch (h : Located used place c) {key key' : UrbKey} {q : Place}
    (hs : key' ∉ used ++ [key]) : relocate place [key] q key' = .fresh := by
  have hmem : key' ∉ used ∧ key' ≠ key := by
    simpa using hs
  rw [relocate_of_not_mem (by simpa using hmem.2)]
  exact h.fresh key' hmem.1

theorem Located.mem_used (h : Located used place c) {key : UrbKey}
    (hp : place key ≠ .fresh) : key ∈ used := by
  by_contra hs
  exact hp (h.fresh key hs)

/-- A transfer gives no place to a URB that is not dispatched yet. -/
theorem Located.fresh_transfer (h : Located used place c) {p q : Place}
    {moved : List UrbKey} {key : UrbKey} (hp : p ≠ .fresh)
    (hm : Placed place p moved) (hs : key ∉ used) : relocate place moved q key = .fresh := by
  have hs' : key ∉ moved := by
    intro hmem
    refine hs (h.mem_used ?_)
    rw [hm.2 key hmem]
    exact hp
  rw [relocate_of_not_mem hs']
  exact h.fresh key hs

/-- A number that was not used in the session is on none of the books. -/
theorem Located.unrecorded (h : Located used place c) {seqnum : UInt32}
    (hs : ⟨c.session, seqnum⟩ ∉ used) :
    c.bulkInSeqnums seqnum = none ∧ seqnum ∉ c.pendingBulkOut ∧
      ¬ Unlinked c.wire c.session seqnum := by
  obtain ⟨hi, hp, hu⟩ := h.books seqnum
  rw [h.fresh _ hs] at hi hp hu
  refine ⟨?_, fun hm => hp hm, fun hun => (hu hun).1⟩
  by_contra hn
  exact hi hn

/-! ## Dispatching -/

theorem Located.submitIn (h : Located used place c) {command : SubmitCommand} {w : InWorker}
    (hs : ⟨c.session, command.header.seqnum⟩ ∉ used)
    (hw : c.ins (realEp command.header) = some w) :
    Located (used ++ [⟨c.session, command.header.seqnum⟩])
      (relocate place [⟨c.session, command.header.seqnum⟩] (.inWorker (realEp command.header)))
      { c with
        clock := c.clock + 1
        ins := Function.update c.ins (realEp command.header) (some (w.push (.submit
          ⟨command.header, command.transferBufferLength, c.urbOf command⟩)))
        bulkInSeqnums := Function.update c.bulkInSeqnums command.header.seqnum
          (some (realEp command.header)) } where
  lists := by
    refine placed_relocate (p := .fresh) h.lists (by simp) (h.fresh_absent hs)
      (placed_nil _ _) ?_ ?_
    · intro key
      rw [listAt_ins hw, listAt_ins (Function.update_self ..)]
      exact count_keys_push (fun k => (held_push_submit w _ k).le) key
    · intro r hr hrq key
      cases r with
      | inWorker endpoint =>
        have hne : endpoint ≠ realEp command.header := fun he => hrq (he ▸ rfl)
        simp only [listAt, keys, Function.update_of_ne hne, le_refl]
      | _ => exact le_rfl
  fresh _ := h.fresh_dispatch
  books s := by
    by_cases hk : s = command.header.seqnum
    · subst hk
      rw [relocate_of_mem List.mem_cons_self]
      obtain ⟨-, hp, hu⟩ := h.unrecorded hs
      exact ⟨fun _ => trivial, fun hm => absurd hm hp, fun hun => absurd hun hu⟩
    · rw [relocate_of_not_mem (by simpa using hk)]
      obtain ⟨hi, hp, hu⟩ := h.books s
      refine ⟨fun hn => hi ?_, hp, hu⟩
      simpa only [Function.update_of_ne hk] using hn
  keyed := forall_update_some (fun ep v _ hv => h.keyed ep v hv) (h.keyed _ w hw)
  inEvents := h.inEvents
  outEvents := h.outEvents
  sessions := h.sessions
  exclusive := h.exclusive

theorem Located.submitOut (h : Located used place c) {command : SubmitCommand} {w : OutWorker}
    (hs : ⟨c.session, command.header.seqnum⟩ ∉ used)
    (hw : c.outs (realEp command.header) = some w) :
    Located (used ++ [⟨c.session, command.header.seqnum⟩])
      (relocate place [⟨c.session, command.header.seqnum⟩] (.outWorker (realEp command.header)))
      { c with
        clock := c.clock + 1
        outs := Function.update c.outs (realEp command.header) (some (w.push (.submit
          ⟨command.header, command.data, c.bulkOutGeneration, c.urbOf command⟩)))
        pendingBulkOut := insert command.header.seqnum c.pendingBulkOut
        bulkOutSeqnums := Function.update c.bulkOutSeqnums command.header.seqnum
          (some (realEp command.header)) } where
  lists := by
    -- The new key goes from nowhere into the list of the worker, once.
    refine placed_relocate (p := .fresh) h.lists (by simp) (h.fresh_absent hs)
      (placed_nil _ _) ?_ ?_
    · intro key
      rw [listAt_outs hw, listAt_outs (Function.update_self ..)]
      refine count_keys_push (fun k => ?_) key
      rw [OutWorker.held_push, List.count_append]
      exact le_rfl
    · intro r hr hrq key
      cases r with
      | outWorker endpoint =>
        have hne : endpoint ≠ realEp command.header := fun he => hrq (he ▸ rfl)
        simp only [listAt, keys, Function.update_of_ne hne, le_refl]
      | _ => exact le_rfl
  fresh _ := h.fresh_dispatch
  books s := by
    by_cases hk : s = command.header.seqnum
    · subst hk
      rw [relocate_of_mem List.mem_cons_self]
      -- The books change at the new number only.
      obtain ⟨hi, -, hu⟩ := h.unrecorded hs
      exact ⟨fun hm => absurd hi hm, fun _ => trivial, fun hun => absurd hun hu⟩
    · rw [relocate_of_not_mem (by simpa using hk)]
      obtain ⟨hi, hp, hu⟩ := h.books s
      refine ⟨hi, fun hn => hp (Finset.mem_of_mem_insert_of_ne hn hk), fun hun => ?_⟩
      obtain ⟨hw', hn, hc⟩ := hu hun
      exact ⟨hw', fun hm => hn (Finset.mem_of_mem_insert_of_ne hm hk), hc⟩
  keyed := h.keyed
  inEvents := h.inEvents
  outEvents := h.outEvents
  sessions := h.sessions
  exclusive := h.exclusive

theorem Located.serve (h : Located used place c) {command : SubmitCommand}
    {remaining : List UInt8} (hs : ⟨c.session, command.header.seqnum⟩ ∉ used) :
    Located (used ++ [⟨c.session, command.header.seqnum⟩])
      (relocate place [⟨c.session, command.header.seqnum⟩] .handler)
      { c with
        clock := c.clock + 1
        phase := .serving command (c.urbOf command) remaining none } where
  lists := by
    refine placed_relocate (p := .fresh) h.lists (by simp) (h.fresh_absent hs)
      (placed_nil _ _) ?_ ?_
    · intro key
      exact Nat.le_add_left _ _
    · intro r hr hrq key
      cases r with
      | handler => exact absurd rfl hrq
      | _ => exact le_rfl
  fresh _ := h.fresh_dispatch
  books s := by
    by_cases hk : s = command.header.seqnum
    · subst hk
      rw [relocate_of_mem List.mem_cons_self]
      obtain ⟨hi, hp, hu⟩ := h.unrecorded hs
      exact ⟨fun hm => absurd hi hm, fun hm => absurd hm hp, fun hun => absurd hun hu⟩
    · rw [relocate_of_not_mem (by simpa using hk)]
      exact h.books s
  keyed := h.keyed
  inEvents := h.inEvents
  outEvents := h.outEvents
  sessions := h.sessions
  exclusive := h.exclusive

/-! ## Moves of the workers -/

theorem Located.inMove (h : Located used place c) {endpoint : UInt8} {w w' : InWorker}
    {events : List BulkInEvent} (hw : c.ins endpoint = some w) (hm : w.Moves w' events)
    (hown : ∀ event ∈ events, event.urb.session = c.session) :
    Located used (relocate place (events.map (·.key)) .inEvent)
      { c with
        ins := Function.update c.ins endpoint (some w')
        inEvents := c.inEvents ++ events } := by
  have hkeys : events.map (·.key) = c.keys (events.map (·.seqnum)) := by
    rw [keys, List.map_map]
    refine List.map_congr_left fun event he => ?_
    rw [BulkInEvent.key, hown event he]
    rfl
  -- What the worker no longer holds is what its events carry.
  have hlists : Placed place (.inWorker endpoint) (events.map (·.key)) ∧
      ∀ r, Placed (relocate place (events.map (·.key)) .inEvent) r (listAt { c with
        ins := Function.update c.ins endpoint (some w')
        inEvents := c.inEvents ++ events } r) := by
    refine placed_transfer h.lists (by simp) ?_ ?_ ?_
    · intro key
      rw [listAt_ins hw, listAt_ins (Function.update_self ..), hkeys]
      exact count_keys_le hm.held key
    · intro key
      simp [listAt]
    · intro r hr hrq key
      cases r with
      | inWorker ep =>
        have hne : ep ≠ endpoint := fun he => hr (he ▸ rfl)
        simp only [listAt, keys, Function.update_of_ne hne, le_refl]
      | inEvent => exact absurd rfl hrq
      | _ => exact le_rfl
  obtain ⟨hmoved, hlists⟩ := hlists
  refine ⟨hlists, ?_, ?_, ?_, ?_, h.outEvents, h.sessions, h.exclusive⟩
  · exact fun key hs => h.fresh_transfer (by simp) hmoved hs
  · intro s
    by_cases hs : ⟨c.session, s⟩ ∈ events.map (·.key)
    -- A key in an event is on its way in all the same, so the books stand.
    · rw [relocate_of_mem hs]
      obtain ⟨hi, hp, hu⟩ := h.books s
      rw [hmoved.2 _ hs] at hi hp hu
      exact ⟨fun _ => trivial, fun hm => (hp hm).elim, fun hun => ⟨trivial, (hu hun).2⟩⟩
    · rw [relocate_of_not_mem hs]
      exact h.books s
  · exact forall_update_some (fun ep v _ hv => h.keyed ep v hv) (hm.keyed (h.keyed _ w hw))
  · intro e he
    rcases List.mem_append.mp he with he | he
    · exact h.inEvents e he
    · obtain ⟨-, r, -, -, hresp, hkey⟩ := hm.answers e he
      rw [hresp, hkey (h.keyed _ w hw)]

theorem Located.outMove (h : Located used place c) {endpoint : UInt8} {w w' : OutWorker}
    {events : List BulkOutEvent} (hw : c.outs endpoint = some w) (hm : w.Moves w' events)
    (hown : ∀ event ∈ events, event.urb.session = c.session) :
    Located used (relocate place (events.map (·.key)) .outEvent)
      { c with
        outs := Function.update c.outs endpoint (some w')
        outEvents := c.outEvents ++ events } := by
  have hkeys : events.map (·.key) = c.keys (events.map (·.seqnum)) := by
    rw [keys, List.map_map]
    refine List.map_congr_left fun event he => ?_
    rw [BulkOutEvent.key, hown event he]
    rfl
  -- What the worker no longer holds is what its events carry.
  have hlists : Placed place (.outWorker endpoint) (events.map (·.key)) ∧
      ∀ r, Placed (relocate place (events.map (·.key)) .outEvent) r (listAt { c with
        outs := Function.update c.outs endpoint (some w')
        outEvents := c.outEvents ++ events } r) := by
    refine placed_transfer h.lists (by simp) ?_ ?_ ?_
    · intro key
      rw [listAt_outs hw, listAt_outs (Function.update_self ..), hkeys]
      exact count_keys_le hm.held key
    · intro key
      simp [listAt]
    · intro r hr hrq key
      cases r with
      | outWorker ep =>
        have hne : ep ≠ endpoint := fun he => hr (he ▸ rfl)
        simp only [listAt, keys, Function.update_of_ne hne, le_refl]
      | outEvent => exact absurd rfl hrq
      | _ => exact le_rfl
  obtain ⟨hmoved, hlists⟩ := hlists
  refine ⟨hlists, ?_, ?_, h.keyed, h.inEvents, ?_, h.sessions, h.exclusive⟩
  · exact fun key hs => h.fresh_transfer (by simp) hmoved hs
  · intro s
    by_cases hs : ⟨c.session, s⟩ ∈ events.map (·.key)
    -- A key in an event is on its way out all the same, so the books stand.
    · rw [relocate_of_mem hs]
      obtain ⟨hi, hp, hu⟩ := h.books s
      rw [hmoved.2 _ hs] at hi hp hu
      refine ⟨fun hm => (hi hm).elim, fun _ => trivial, fun hun => ⟨trivial, (hu hun).2.1, ?_⟩⟩
      exact fun hat => hat.elim
    · rw [relocate_of_not_mem hs]
      exact h.books s
  · intro e he
    rcases List.mem_append.mp he with he | he
    · exact h.outEvents e he
    · exact (hm.answers e he).seqnum

/-! ## Replies to a submit -/

/-- A URB leaves its place and is answered; its number leaves the books, and is not the number
    of a URB of the session that was unlinked. -/
theorem Located.answer (h : Located used place c) {seqnum : UInt32} {urb : Urb}
    {source : Source} {response : UsbIpResponse} {p : Place} (hf : p ≠ .fresh)
    (hp : p ≠ .answered)
    (hc : ∀ key, [UrbKey.mk urb.session seqnum].count key + (t.listAt p).count key ≤
      (c.listAt p).count key)
    (ho : ∀ r, r ≠ p → r ≠ .answered → ∀ key, (t.listAt r).count key ≤ (c.listAt r).count key)
    (hresp : response.submitSeqnum? = some seqnum)
    (hun : ¬ Unlinked c.wire c.session seqnum)
    (hin : t.bulkInSeqnums seqnum = none) (hout : seqnum ∉ t.pendingBulkOut)
    (hbooks : ∀ p s, s ≠ seqnum → BookAt p c s → BookAt p { t with wire := c.wire } s)
    (hwire : t.wire = c.wire ++ [.submit c.session urb source response])
    (hsession : t.session = c.session)
    (hins : t.ins = c.ins) (hine : ∀ e ∈ t.inEvents, e ∈ c.inEvents)
    (houte : ∀ e ∈ t.outEvents, e ∈ c.outEvents) :
    Located used (relocate place [UrbKey.mk urb.session seqnum] .answered) t := by
  have hanswered : t.answered = c.answered ++ [UrbKey.mk urb.session seqnum] := by
    simp [answered, hwire, List.filterMap_append, Reply.key?, hresp]
  -- The key leaves the place it had for the replies written.
  have hlists : Placed place p [UrbKey.mk urb.session seqnum] ∧
      ∀ r, Placed (relocate place [UrbKey.mk urb.session seqnum] .answered) r (t.listAt r) := by
    refine placed_transfer h.lists hp hc ?_ ho
    intro key
    simp only [listAt, hanswered, List.count_append, le_refl]
  obtain ⟨hmoved, hlists⟩ := hlists
  refine ⟨hlists, fun key hs => h.fresh_transfer hf hmoved hs, ?_, ?_, ?_, ?_, ?_, ?_⟩
  · intro s
    rw [hsession]
    by_cases hk : s = seqnum
    · subst hk
      -- The number answered is off the books; every other one stands where it stood.
      refine ⟨fun hn => absurd hin hn, fun hm => absurd hm hout, fun hu => absurd ?_ hun⟩
      rwa [hwire, hsession, unlinked_append_submit] at hu
    · rw [relocate_of_not_mem (by simp [hk])]
      obtain ⟨hi, hpend, hu⟩ := hbooks _ s hk (h.books s)
      refine ⟨hi, hpend, fun hun' => hu ?_⟩
      rw [hwire, unlinked_append_submit] at hun'
      exact hun'
  · intro ep w hw
    exact h.keyed ep w (hins ▸ hw)
  · exact fun e he => h.inEvents e (hine e he)
  · exact fun e he => h.outEvents e (houte e he)
  · intro r hr
    rw [hwire] at hr
    rw [hsession]
    rcases List.mem_append.mp hr with hr | hr
    · exact h.sessions r hr
    · rw [List.mem_singleton.mp hr]
      exact le_rfl
  · intro n s hu ha
    rw [hwire, unlinked_append_submit] at hu
    rw [hwire] at ha
    rcases answered_append ha with ha | ⟨hn, hs⟩
    · exact h.exclusive n s hu ha
    -- An unlinked number is not the one answered here.
    · rw [show s = seqnum from Option.some.inj (hs.symm.trans hresp), ← hn] at hu
      exact hun hu

/-- Where nothing moves, the books may be cleared. -/
theorem Located.shrink (h : Located used place c)
    (hl : ∀ r key, (t.listAt r).count key ≤ (c.listAt r).count key)
    (hbooks : ∀ p s, BookAt p c s → BookAt p t s)
    (hins : ∀ ep w, t.ins ep = some w → w.Keyed)
    (hine : ∀ e ∈ t.inEvents, e ∈ c.inEvents) (houte : ∀ e ∈ t.outEvents, e ∈ c.outEvents)
    (hwire : t.wire = c.wire) (hsession : t.session = c.session) : Located used place t where
  lists := placed_shrink h.lists hl
  fresh := h.fresh
  books s := hsession ▸ hbooks _ s (h.books s)
  keyed := hins
  inEvents e he := h.inEvents e (hine e he)
  outEvents e he := h.outEvents e (houte e he)
  sessions r hr := hsession ▸ h.sessions r (hwire ▸ hr)
  exclusive n s := by
    rw [hwire]
    exact h.exclusive n s

/-- The handler is done with the URB it serves. -/
theorem Located.answer_served (h : Located used place c) (hunstale : Unstale used c)
    {command : SubmitCommand} {urb : Urb} {remaining : List UInt8}
    {awaiting : Option (UInt8 × Oneshot)} {response : UsbIpResponse} {controls : List Urb}
    (hp : c.phase = .serving command urb remaining awaiting)
    (hresp : response.submitSeqnum? = some command.header.seqnum) :
    Located used (relocate place [⟨urb.session, command.header.seqnum⟩] .answered)
      { c with
        phase := .select
        controls := controls
        wire := c.wire ++ [.submit c.session urb .handler response] } := by
  have hlist : c.listAt .handler = [⟨urb.session, command.header.seqnum⟩] := by
    simp [listAt, hp]
  have hplace : place ⟨c.session, command.header.seqnum⟩ = .handler := by
    rw [← hunstale.serving _ _ _ _ hp]
    exact (h.lists .handler).2 _ (hlist ▸ List.mem_cons_self)
  obtain ⟨hi, hpend, hun⟩ := h.books command.header.seqnum
  rw [hplace] at hi hpend hun
  refine h.answer (p := .handler) (by simp) (by simp) ?_ ?_ hresp (fun hu => (hun hu).1) ?_ hpend
    (fun p s _ hb => hb) rfl rfl rfl (fun e he => he) (fun e he => he)
  · intro key
    rw [hlist]
    exact le_rfl
  · intro r hr hra key
    cases r with
    | handler => exact absurd rfl hr
    | answered => exact absurd rfl hra
    | _ => exact le_rfl
  · by_contra hn
    exact hi hn

theorem count_tail_events {α β : Type} [DecidableEq β] {events rest : List α} {event : α}
    {f : α → β} (he : events = event :: rest) (b : β) :
    [f event].count b + (rest.map f).count b ≤ (events.map f).count b := by
  simp only [he, List.map_cons, List.count_cons, List.count_nil]
  omega

/-- An event at the head of the bulk-IN queue is of the session, or its number was not used in
    it. Either way it is pending at no OUT worker, and was unlinked only if that is on record. -/
theorem Located.inEvent_books (h : Located used place c) (hunstale : Unstale used c)
    {event : BulkInEvent} (he : event ∈ c.inEvents) :
    event.seqnum ∉ c.pendingBulkOut ∧ (Unlinked c.wire c.session event.seqnum →
      event.urb.session = c.session ∧ event.seqnum ∈ c.cancelledBulkInSeqnums) := by
  by_cases hown : event.urb.session = c.session
  · have hplace : place ⟨c.session, event.seqnum⟩ = .inEvent := by
      rw [← hown]
      exact (h.lists .inEvent).2 _ (List.mem_map_of_mem he)
    obtain ⟨-, hp, hu⟩ := h.books event.seqnum
    rw [hplace] at hp hu
    exact ⟨fun hm => hp hm, fun hun => ⟨hown, (hu hun).2.2 trivial⟩⟩
  · obtain ⟨-, hp, hu⟩ := h.unrecorded (hunstale.inEvents event he hown)
    exact ⟨hp, fun hun => absurd hun hu⟩

theorem Located.deliverIn (h : Located used place c) (hunstale : Unstale used c)
    {event : BulkInEvent} {rest : List BulkInEvent} (he : c.inEvents = event :: rest) :
    ∃ place', Located used place' (c.deliverIn event rest) := by
  have hmem : event ∈ c.inEvents := he ▸ List.mem_cons_self
  have hrest : ∀ e ∈ rest, e ∈ c.inEvents := fun e hr => he ▸ List.mem_cons_of_mem _ hr
  have hcount : ∀ key, [event.key].count key + (rest.map (·.key)).count key ≤
      (c.listAt .inEvent).count key := count_tail_events he
  obtain ⟨hpend, hun⟩ := h.inEvent_books hunstale hmem
  have hbooks : ∀ p s, s ≠ event.seqnum → BookAt p c s → BookAt p { c with
      inEvents := rest
      bulkInSeqnums := Function.update c.bulkInSeqnums event.seqnum none
      cancelledBulkInSeqnums := c.cancelledBulkInSeqnums.erase event.seqnum } s := by
    rintro p s hs ⟨hi, hp, hu⟩
    refine ⟨fun hn => hi ?_, hp, fun hu' => ?_⟩
    · simpa only [Function.update_of_ne hs] using hn
    · obtain ⟨h1, h2, h3⟩ := hu hu'
      exact ⟨h1, h2, fun hat => Finset.mem_erase_of_ne_of_mem hs (h3 hat)⟩
  unfold Connection.deliverIn
  dsimp only
  split
  · rename_i hw
    -- The reply of an event that nobody has cancelled is written.
    have hcan : event.seqnum ∉ c.cancelledBulkInSeqnums := of_decide_eq_true hw
    refine ⟨relocate place [event.key] .answered, ?_⟩
    refine h.answer (p := .inEvent) (by simp) (by simp) hcount ?_ (h.inEvents event hmem)
      (fun hu => hcan (hun hu).2) (Function.update_self ..) hpend hbooks rfl rfl rfl
      hrest (fun e he => he)
    intro r hr hra key
    cases r with
    | inEvent => exact absurd rfl hr
    | answered => exact absurd rfl hra
    | _ => exact le_rfl
  -- The event of a URB that was unlinked goes by unanswered.
  · refine ⟨relocate place [event.key] .gone, ?_⟩
    have hlists : Placed place .inEvent [event.key] ∧
        ∀ r, Placed (relocate place [event.key] .gone) r
          (listAt { c with inEvents := rest } r) := by
      refine placed_transfer h.lists (by simp) hcount ?_ ?_
      · intro key
        exact Nat.zero_le _
      · intro r hr hrq key
        cases r with
        | inEvent => exact absurd rfl hr
        | _ => exact le_rfl
    refine ⟨hlists.2, fun key hs => h.fresh_transfer (by simp) hlists.1 hs, ?_, h.keyed,
      fun e hr => h.inEvents e (hrest e hr), h.outEvents, h.sessions, h.exclusive⟩
    intro s
    by_cases hk : s = event.seqnum
    · subst hk
      refine ⟨fun hn => absurd (Function.update_self ..) hn, fun hm => absurd hm hpend,
        fun hu => ?_⟩
      have hkey : event.key = ⟨c.session, event.seqnum⟩ := by
        rw [BulkInEvent.key, (hun hu).1]
      rw [hkey, relocate_of_mem List.mem_cons_self]
      exact ⟨trivial, hpend, fun hat => hat.elim⟩
    · rw [relocate_of_not_mem (by simp [BulkInEvent.key, hk])]
      exact hbooks _ s hk (h.books s)

theorem Located.deliverOut (h : Located used place c) (hunstale : Unstale used c)
    {event : BulkOutEvent} {rest : List BulkOutEvent} (he : c.outEvents = event :: rest) :
    ∃ place', Located used place' (c.deliverOut event rest) := by
  have hmem : event ∈ c.outEvents := he ▸ List.mem_cons_self
  have hrest : ∀ e ∈ rest, e ∈ c.outEvents := fun e hr => he ▸ List.mem_cons_of_mem _ hr
  have hcount : ∀ key, [event.key].count key + (rest.map (·.key)).count key ≤
      (c.listAt .outEvent).count key := count_tail_events he
  have hshrink : ∀ r key, (listAt { c with outEvents := rest } r).count key ≤
      (c.listAt r).count key := by
    intro r key
    cases r with
    | outEvent => exact (Nat.le_add_left _ _).trans (hcount key)
    | _ => exact le_rfl
  have herase : ∀ p s, BookAt p c s → BookAt p { c with
      pendingBulkOut := c.pendingBulkOut.erase event.seqnum } s := by
    rintro p s ⟨hi, hp, hu⟩
    refine ⟨hi, fun hm => hp (Finset.mem_of_mem_erase hm), fun hu' => ?_⟩
    obtain ⟨h1, h2, h3⟩ := hu hu'
    exact ⟨h1, fun hm => h2 (Finset.mem_of_mem_erase hm), h3⟩
  unfold Connection.deliverOut
  dsimp only
  split
  · rename_i hgen
    split
    · rename_i hw
      have hpending : event.seqnum ∈ c.pendingBulkOut := hw
      -- A pending number is one of the session, so the event is not a stale one.
      have hown : event.urb.session = c.session := by
        by_contra hne
        exact (h.unrecorded
          (hunstale.outEvents event hmem (of_decide_eq_true hgen).symm hne)).2.1 hpending
      have hplace : place ⟨c.session, event.seqnum⟩ = .outEvent := by
        rw [← hown]
        exact (h.lists .outEvent).2 _ (List.mem_map_of_mem hmem)
      obtain ⟨hi, -, hun⟩ := h.books event.seqnum
      rw [hplace] at hi
      refine ⟨relocate place [event.key] .answered, ?_⟩
      refine h.answer (p := .outEvent) (by simp) (by simp) hcount
        (fun r hr hra key => ?_) (h.outEvents event hmem) (fun hu => (hun hu).2.1 hpending) ?_
        (Finset.notMem_erase _ _) (fun p s _ => herase p s) rfl rfl rfl (fun e he => he) hrest
      · cases r with
        | outEvent => exact absurd rfl hr
        | answered => exact absurd rfl hra
        | _ => exact le_rfl
      · by_contra hn
        exact hi hn
    · exact ⟨place, h.shrink hshrink herase h.keyed (fun e he => he) hrest rfl rfl⟩
  · exact ⟨place, h.shrink hshrink (fun p s hb => hb) h.keyed (fun e he => he) hrest rfl rfl⟩

theorem Located.execute (h : Located used place c) (hunstale : Unstale used c)
    {command : SubmitCommand} {urb : Urb} {device : UsbDevice} {host : Host}
    (hp : c.phase = .serving command urb [] none) :
    ∃ place', Located used place' (c.execute prof command urb device host) := by
  have hshrink : ∀ phase controls, (∀ command urb remaining awaiting,
        phase ≠ .serving command urb remaining awaiting) →
      ∀ r key, (listAt { c with phase := phase, controls := controls } r).count key ≤
        (c.listAt r).count key := by
    intro phase controls hphase r key
    cases r with
    | handler =>
      cases phase with
      | serving command urb remaining awaiting => exact absurd rfl (hphase _ _ _ _)
      | _ => exact Nat.zero_le _
    | _ => exact le_rfl
  unfold Connection.execute
  dsimp only
  split
  · rename_i response hresp
    exact ⟨_, h.answer_served hunstale hp (handleUsbipCmdSubmit_seqnum hresp)⟩
  · exact ⟨place, h.shrink (hshrink .select _ (by simp)) (fun p s hb => hb) h.keyed
      (fun e he => he) (fun e he => he) rfl rfl⟩
  · exact ⟨place, h.shrink (hshrink .panicked _ (by simp)) (fun p s hb => hb) h.keyed
      (fun e he => he) (fun e he => he) rfl rfl⟩

/-! ## Replies to an unlink -/

/-- A URB of the session that stands in the program has no `RET_SUBMIT` in it. -/
theorem Located.not_answered (h : Located used place c) (hunstale : Unstale used c)
    {seqnum : UInt32}
    (hw : (place ⟨c.session, seqnum⟩).Withdrawn) :
    ¬ Lusbip.Answered c.wire c.session seqnum := by
  rintro ⟨reply, hr, hsession, hs⟩
  have hused : ⟨c.session, seqnum⟩ ∈ used := by
    refine h.mem_used fun hf => ?_
    rw [hf] at hw
    exact hw
  have hkey := hunstale.wire _ hused reply hr hsession hs
  have hplace := (h.lists .answered).2 _ (List.mem_filterMap.mpr ⟨reply, hr, hkey⟩)
  rw [hplace] at hw
  exact hw

/-- A reply with status 0 is for a URB that was on record, and is on record as cancelled. -/
theorem Located.unlink (h : Located used place c) (hunstale : Unstale used c)
    {seqnum : UInt32} {response : UsbIpResponse}
    (hl : ∀ r key, r ≠ .answered → (t.listAt r).count key ≤ (c.listAt r).count key)
    (hbooks : ∀ p s, BookAt p c s → BookAt p { t with wire := c.wire } s)
    (hok : response.unlinkStatus? = some 0 → (place ⟨c.session, seqnum⟩).Withdrawn ∧
      seqnum ∉ t.pendingBulkOut ∧
      ((place ⟨c.session, seqnum⟩).AtIn → seqnum ∈ t.cancelledBulkInSeqnums))
    (hins : ∀ ep w, t.ins ep = some w → w.Keyed)
    (hine : t.inEvents = c.inEvents) (houte : t.outEvents = c.outEvents)
    (hwire : t.wire = c.wire ++ [.unlink c.session seqnum response])
    (hsession : t.session = c.session) : Located used place t where
  lists := by
    refine placed_shrink h.lists fun r key => ?_
    by_cases hr : r = .answered
    -- The reply to an unlink answers no URB.
    · have heq : t.answered = c.answered := by
        rw [answered, hwire, List.filterMap_append]
        exact List.append_nil _
      rw [hr]
      exact (congrArg (List.count key) heq).le
    · exact hl r key hr
  fresh := h.fresh
  books s := by
    rw [hsession]
    obtain ⟨hi, hp, hu⟩ := hbooks _ s (h.books s)
    -- A number withdrawn now was on the books, and has been taken off them.
    refine ⟨hi, hp, fun hun => ?_⟩
    rw [hwire, hsession, unlinked_append_unlink] at hun
    rcases hun with hun | ⟨-, rfl, hs⟩
    · exact hu (by rwa [hsession])
    · exact hok hs
  keyed := hins
  inEvents e he := h.inEvents e (hine ▸ he)
  outEvents e he := h.outEvents e (houte ▸ he)
  sessions r hr := by
    rw [hwire] at hr
    rw [hsession]
    rcases List.mem_append.mp hr with hr | hr
    · exact h.sessions r hr
    · rw [List.mem_singleton.mp hr]
      exact le_rfl
  exclusive n s hun ha := by
    rw [hwire, unlinked_append_unlink] at hun
    rw [hwire] at ha
    rcases answered_append ha with hans | ⟨-, hs⟩
    · rcases hun with hun | ⟨rfl, rfl, hs⟩
      · exact h.exclusive n s hun hans
      · exact h.not_answered hunstale (hok hs).1 hans
    · cases hs

/-- The flush of a barrier, or a shutdown, is no URB. -/
theorem Located.toldOut (h : Located used place c) {outs : UInt8 → Option OutWorker}
    {endpoint : UInt8} {command : BulkOutCommand}
    (houts : ToldOut c.outs endpoint command outs) (hc : command.submitSeqnum? = none)
    (hl : ∀ r, (∀ ep, r ≠ .outWorker ep) → ∀ key,
      (t.listAt r).count key ≤ (c.listAt r).count key)
    (ht : t.outs = outs) (hbooks : ∀ p s, BookAt p c s → BookAt p t s)
    (hins : ∀ ep w, t.ins ep = some w → w.Keyed)
    (hine : t.inEvents = c.inEvents) (houte : t.outEvents = c.outEvents)
    (hwire : t.wire = c.wire) (hsession : t.session = c.session) : Located used place t := by
  refine h.shrink (fun r key => ?_) hbooks hins (fun e he => hine ▸ he) (fun e he => houte ▸ he)
    hwire hsession
  cases r with
  | outWorker ep => simp only [listAt, keys, ht, houts.held hc ep, hsession, le_refl]
  | _ => exact hl _ (by simp) key

/-! ## Imports -/

/-- Nothing survives an import but what is in the event queues and on the wire. -/
theorem Located.reset (h : Located used place c)
    (ht : ∀ r, r ≠ .inEvent → r ≠ .outEvent → r ≠ .answered → t.listAt r = [])
    (hine : t.inEvents = c.inEvents)
    (houte : t.outEvents = c.outEvents) (hin : t.bulkInSeqnums = fun _ => none)
    (hpend : t.pendingBulkOut = ∅) (hsession : t.session = c.session + 1)
    (hkeyed : ∀ ep w, t.ins ep = some w → w.Keyed)
    (hwire : t.wire = c.wire ∨
      ∃ response, t.wire = c.wire ++ [.imported (c.session + 1) response]) :
    Located used place t := by
  have hanswered : t.answered = c.answered := by
    rcases hwire with hw | ⟨response, hw⟩
    · rw [answered, hw, answered]
    · rw [answered, hw, List.filterMap_append]
      exact List.append_nil _
  have hunlinked : ∀ n s, Unlinked t.wire n s → Unlinked c.wire n s := by
    intro n s hu
    rcases hwire with hw | ⟨response, hw⟩
    · rwa [hw] at hu
    · rwa [hw, unlinked_append_imported] at hu
  -- Nothing has been unlinked in a session that only begins.
  have hnone : ∀ s, ¬ Unlinked t.wire t.session s := by
    intro s hu
    obtain ⟨r, hr, -⟩ := hunlinked _ s hu
    have := h.sessions _ hr
    rw [hsession] at this
    exact absurd this (Nat.not_succ_le_self _)
  refine ⟨placed_shrink h.lists fun r key => ?_, h.fresh, ?_, hkeyed, ?_, ?_, ?_, ?_⟩
  · by_cases h1 : r = .inEvent
    · rw [h1]
      simp only [listAt, hine, le_refl]
    · by_cases h2 : r = .outEvent
      · rw [h2]
        simp only [listAt, houte, le_refl]
      · by_cases h3 : r = .answered
        · rw [h3]
          simp only [listAt, hanswered, le_refl]
        · rw [ht r h1 h2 h3]
          exact Nat.zero_le _
  · intro s
    refine ⟨fun hn => absurd (by rw [hin]) hn, fun hm => ?_, fun hu => absurd hu (hnone s)⟩
    rw [hpend] at hm
    exact absurd hm (Finset.notMem_empty s)
  · exact fun e he => h.inEvents e (hine ▸ he)
  · exact fun e he => h.outEvents e (houte ▸ he)
  · intro r hr
    rw [hsession]
    rcases hwire with hw | ⟨response, hw⟩
    · exact (h.sessions r (hw ▸ hr)).trans (Nat.le_succ _)
    · rw [hw] at hr
      rcases List.mem_append.mp hr with hr | hr
      · exact (h.sessions r hr).trans (Nat.le_succ _)
      · rw [List.mem_singleton.mp hr]
        exact le_rfl
  · intro n s hu ha
    refine h.exclusive n s (hunlinked n s hu) ?_
    rcases hwire with hw | ⟨response, hw⟩
    · rwa [hw] at ha
    · rw [hw] at ha
      rcases answered_append ha with ha | ⟨-, hs⟩
      · exact ha
      · cases hs

theorem Located.importDone (h : Located used place c) (outcome : ImportOutcome) :
    Located used place (c.importDone outcome) := by
  unfold Connection.importDone
  cases outcome with
  | rejected =>
    refine h.reset ?_ rfl rfl rfl rfl rfl (fun _ _ h => nomatch h) (Or.inl rfl)
    intro r h1 h2 h3
    cases r <;> first | rfl | contradiction
  | refused =>
    refine h.reset ?_ rfl rfl rfl rfl rfl (fun _ _ h => nomatch h) (Or.inr ⟨_, rfl⟩)
    intro r h1 h2 h3
    cases r <;> first | rfl | contradiction
  | succeeded device opens =>
    refine h.reset ?_ rfl rfl rfl rfl rfl ?_ (Or.inr ⟨_, rfl⟩)
    · intro r h1 h2 h3
      cases r with
      | inWorker ep =>
        have hheld : ((startBulkInWorkers device (startBulkOutWorkers device opens) ep).map
            (·.held)).getD [] = [] := by
          cases hw : startBulkInWorkers device (startBulkOutWorkers device opens) ep with
          | none => rfl
          | some w => exact (held_startBulkInWorkers hw).1
        exact congrArg (List.map _) hheld
      | outWorker ep =>
        have hheld : ((if ep ∈ startBulkOutWorkers device opens then
            some ({ address := ep } : OutWorker) else none).map (·.held)).getD [] = [] := by
          split <;> rfl
        exact congrArg (List.map _) hheld
      | _ => first | rfl | contradiction
    · intro ep w hw s r hr
      rw [(held_startBulkInWorkers hw).2] at hr
      cases hr

/-! ## A step -/

theorem Located.mono (h : Located used place c) {used' : List UrbKey} (hs : used ⊆ used') :
    Located used' place c :=
  { h with fresh := fun key hk => h.fresh key fun hm => hk (hs hm) }

/-- The URB that an action dispatches. -/
def keysBy (c : Connection) (a : Action) : List UrbKey :=
  (Chronicle.dispatchedBy c a).map fun p => ⟨p.1.session, p.2.header.seqnum⟩

theorem keysBy_submit (hd : c.device ≠ none) (command : SubmitCommand) :
    c.keysBy (.submit command) = [⟨c.session, command.header.seqnum⟩] := by
  rw [keysBy, Chronicle.dispatchedBy_submit hd]
  rfl

/-- The events that a worker sends are for URBs of the session. -/
structure SendsOwn (c : Connection) : Prop where
  ins : ∀ endpoint w move w' events, c.ins endpoint = some w → w.step move = some (w', events) →
    ∀ event ∈ events, event.urb.session = c.session
  outs : ∀ endpoint w w' events, c.outs endpoint = some w → OutWorker.Turn w w' events →
    ∀ event ∈ events, event.urb.session = c.session

theorem Located.step (h : Located used place c) (hunstale : Unstale used c) (hsends : c.SendsOwn)
    (hnew : ∀ key ∈ c.keysBy a, key ∉ used) (he : Effect prof c a t) :
    ∃ place', Located (used ++ c.keysBy a) place' t := by
  have hkept : (∃ place', Located used place' t) →
      ∃ place', Located (used ++ c.keysBy a) place' t :=
    fun ⟨place', h'⟩ => ⟨place', h'.mono (List.subset_append_left _ _)⟩
  have hfresh : ∀ {command : SubmitCommand}, a = .submit command → c.device ≠ none →
      ⟨c.session, command.header.seqnum⟩ ∉ used := by
    rintro command rfl hd
    refine hnew _ ?_
    rw [keysBy_submit hd]
    exact List.mem_cons_self
  cases he with
  | ignored command hd hp =>
    exact hkept ⟨place, h.shrink (fun r key => le_rfl) (fun p s hb => hb) h.keyed
      (fun e he => he) (fun e he => he) rfl rfl⟩
  | submitIn command w hp hw hd hdir =>
    rw [keysBy_submit hd]
    exact ⟨_, h.submitIn (hfresh rfl hd) hw⟩
  | submitOut command w hp hw hd hdir =>
    rw [keysBy_submit hd]
    exact ⟨_, h.submitOut (hfresh rfl hd) hw⟩
  | serve command remaining hp hr hd =>
    rw [keysBy_submit hd]
    exact ⟨_, h.serve (hfresh rfl hd)⟩
  | unlinkIn header seqnum endpoint ins hp hs hins =>
    have hat : (place ⟨c.session, seqnum⟩).AtIn := (h.books seqnum).1 (by simp [hs])
    refine hkept ⟨place, h.unlink hunstale ?_ ?_ ?_ (hins.keyed h.keyed) rfl rfl rfl rfl⟩
    · intro r key hr
      cases r with
      | inWorker ep => simp only [listAt, keys, hins.held ep, le_refl]
      | answered => exact absurd rfl hr
      | _ => exact le_rfl
    · rintro p s ⟨hi, hpend, hu⟩
      refine ⟨fun hn => hi fun hc => hn ?_, hpend, fun hun => ?_⟩
      · by_cases hk : s = seqnum
        · subst hk
          exact Function.update_self ..
        · simpa only [Function.update_of_ne hk] using hc
      · obtain ⟨h1, h2, h3⟩ := hu hun
        exact ⟨h1, h2, fun hat => Finset.mem_insert_of_mem (h3 hat)⟩
    · intro _
      refine ⟨?_, fun hm => ?_, fun _ => Finset.mem_insert_self _ _⟩
      · generalize place ⟨c.session, seqnum⟩ = p at hat
        cases p <;> trivial
      · have hout := (h.books seqnum).2.1 hm
        generalize place ⟨c.session, seqnum⟩ = p at hat hout
        cases p <;> trivial
  | unlinkOut header seqnum endpoint outs hp hs houts =>
    refine hkept ⟨place, h.unlink hunstale ?_ ?_ ?_ h.keyed rfl rfl rfl rfl⟩
    · intro r key hr
      cases r with
      | outWorker ep => simp only [listAt, keys, houts.held rfl ep, le_refl]
      | answered => exact absurd rfl hr
      | _ => exact le_rfl
    · rintro p s ⟨hi, hpend, hu⟩
      refine ⟨hi, fun hm => hpend (Finset.mem_of_mem_erase hm), fun hun => ?_⟩
      obtain ⟨h1, h2, h3⟩ := hu hun
      exact ⟨h1, fun hm => h2 (Finset.mem_of_mem_erase hm), h3⟩
    · intro hok
      rw [handleUsbipCmdUnlink_status] at hok
      have hat : (place ⟨c.session, seqnum⟩).AtOut :=
        (h.books seqnum).2.1 (of_decide_eq_true hok)
      refine ⟨?_, Finset.notMem_erase _ _, fun hin => ?_⟩
      · generalize place ⟨c.session, seqnum⟩ = p at hat
        cases p <;> trivial
      · generalize place ⟨c.session, seqnum⟩ = p at hat hin
        cases p <;> trivial
  | unlinkUnknown header seqnum hp =>
    refine hkept ⟨place, h.unlink hunstale (fun r key hr => ?_) (fun p s hb => hb) ?_ h.keyed
      rfl rfl rfl rfl⟩
    · cases r with
      | answered => exact absurd rfl hr
      | _ => exact le_rfl
    · intro hok
      simp [handleUsbipCmdUnlink_status] at hok
  | importRequest hp =>
    refine hkept ⟨place, h.shrink (fun r key => ?_) (fun p s hb => hb) (fun _ _ h => nomatch h)
      (fun e he => he) (fun e he => he) rfl rfl⟩
    cases r with
    | inWorker ep => exact Nat.zero_le _
    | handler => exact Nat.zero_le _
    | _ => exact le_rfl
  | shutdownSent endpoint remaining outs hp houts =>
    refine hkept ⟨place, h.toldOut houts rfl (fun r hr key => ?_) rfl (fun p s hb => hb) h.keyed
      rfl rfl rfl rfl⟩
    cases r with
    | outWorker ep => exact absurd rfl (hr ep)
    | handler => exact Nat.zero_le _
    | _ => exact le_rfl
  | importDone outcome hp => exact hkept ⟨place, h.importDone outcome⟩
  | deliverIn event rest hp he => exact hkept (h.deliverIn hunstale he)
  | deliverOut event rest hp he => exact hkept (h.deliverOut hunstale he)
  | controlFlush command urb remaining endpoint w hp hw =>
    refine hkept ⟨place, h.toldOut (toldOut_push hw _) rfl (fun r hr key => ?_) rfl
      (fun p s hb => hb) h.keyed rfl rfl rfl rfl⟩
    cases r with
    | outWorker ep => exact absurd rfl (hr ep)
    | handler => simp only [listAt, hp, HandlerPhase.held, le_refl]
    | _ => exact le_rfl
  | controlFailed a command urb remaining awaiting endpoint err hp ha =>
    exact hkept ⟨_, h.answer_served hunstale hp rfl⟩
  | controlPassed command urb remaining endpoint sender w hp hw hr =>
    refine hkept ⟨place, h.shrink (fun r key => ?_) (fun p s hb => hb) h.keyed
      (fun e he => he) (fun e he => he) rfl rfl⟩
    cases r with
    | handler => simp only [controlBarrier, listAt, hp, HandlerPhase.held, le_refl]
    | _ => exact le_rfl
  | execute host command urb device hp hdev => exact hkept (h.execute hunstale hp)
  | inFlush endpoint w out o seqnum len hw ho hout hwp =>
    have hto : Located used place { c with
        outs := Function.update c.outs out (some (o.push (.flush ⟨c.nextReply, c.clock⟩)))
        nextReply := c.nextReply + 1 } := by
      refine h.toldOut (toldOut_push hout _) rfl (fun r hr key => ?_) rfl (fun p s hb => hb)
        h.keyed rfl rfl rfl rfl
      cases r with
      | outWorker ep => exact absurd rfl (hr ep)
      | _ => exact le_rfl
    refine hkept ⟨place, hto.shrink (fun r key => ?_) (fun p s hb => hb)
      (forall_update_some (fun ep v _ hv => h.keyed ep v hv) (h.keyed endpoint w hw))
      (fun e he => he) (fun e he => he) rfl rfl⟩
    cases r with
    | inWorker ep =>
      by_cases hk : ep = endpoint
      · subst hk
        simp only [listAt, hw, Function.update_self]
        exact le_rfl
      · simp only [listAt, keys, Function.update_of_ne hk, le_refl]
    | _ => exact le_rfl
  | inMove endpoint move w w' events hw hs hf hb =>
    have hown := hsends.ins endpoint w move w' events hw hs
    exact hkept ⟨_, h.inMove hw (InWorker.step_moves hs) hown⟩
  | outMove endpoint move w w' events hw hs =>
    have hturn := OutWorker.step_turn hs
    exact hkept ⟨_, h.outMove hw hturn.moves (hsends.outs endpoint w w' events hw hturn)⟩

end Connection
end Lusbip
