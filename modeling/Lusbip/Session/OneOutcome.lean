import Lusbip.Session.Isolation
import Lusbip.Session.Whereabouts

/-!
# At most one outcome for a URB

Within a session a sequence number gets one `RET_SUBMIT` at most, and none if it was unlinked
with status 0: so it is in every run in which no number is used twice in a session, nor while
an event of an earlier session bears it. Where a stale event bears the number, the URB gets
that event's `RET_SUBMIT` besides its own.
-/

namespace Lusbip

open Lib.Transition Lib.Placement

namespace Connection

variable {prof : Profile} {c t : Connection} {a : Action} {used : List UrbKey}
  {place : UrbKey → Place}

/-! ## What earlier sessions leave behind -/

/-- A number that is not stale may be used. -/
theorem Unstale.use (h : Unstale used c) {seqnum : UInt32} (hs : ¬ c.Stale seqnum) :
    Unstale (used ++ [⟨c.session, seqnum⟩]) c where
  inEvents event he hne hm := by
    rcases List.mem_append.mp hm with hm | hm
    · exact h.inEvents event he hne hm
    · obtain ⟨-, heq⟩ := UrbKey.mk.inj (List.mem_singleton.mp hm)
      exact hs (Or.inl ⟨event, he, hne, heq⟩)
  outEvents event he hg hne hm := by
    rcases List.mem_append.mp hm with hm | hm
    · exact h.outEvents event he hg hne hm
    · obtain ⟨-, heq⟩ := UrbKey.mk.inj (List.mem_singleton.mp hm)
      exact hs (Or.inr (Or.inl ⟨event, he, hg, hne, heq⟩))
  wire key hk reply hr hsession hseq := by
    rcases List.mem_append.mp hk with hk | hk
    · exact h.wire key hk reply hr hsession hseq
    · rw [List.mem_singleton.mp hk] at hsession hseq ⊢
      cases reply with
      | submit session urb source response =>
        have hkey : (Reply.submit session urb source response).key? =
            some ⟨urb.session, seqnum⟩ := congrArg (Option.map (UrbKey.mk urb.session)) hseq
        by_cases hown : urb.session = c.session
        · rw [hkey, hown]
        · exact absurd (Or.inr (Or.inr ⟨_, hr, hsession, _, hkey, hown, rfl⟩)) hs
      | imported session response => cases hseq
      | unlink session seqnum' response => cases hseq
  serving := h.serving

/-- A reply that a step writes is for a URB of the session, or its number was not used. -/
theorem Unstale.answered (h : Unstale used c) (hl : Located used place c) {urb : Urb}
    {source : Source} {response : UsbIpResponse} {seqnum : UInt32}
    (ha : Connection.Answered prof c a urb source response)
    (hs : response.submitSeqnum? = some seqnum) (hused : ⟨c.session, seqnum⟩ ∈ used) :
    urb.session = c.session := by
  by_contra hne
  cases ha with
  | bulkIn event he =>
    obtain rfl := Option.some.inj ((hl.inEvents event he).symm.trans hs)
    exact h.inEvents event he hne hused
  | bulkOut event rest he hg hp =>
    have hm : event ∈ c.outEvents := he ▸ List.mem_cons_self
    obtain rfl := Option.some.inj ((hl.outEvents event hm).symm.trans hs)
    exact h.outEvents event hm hg hne hused
  | barrier a command urb remaining awaiting hp => exact hne (h.serving _ _ _ _ hp)
  | executed host command urb device response hp hd hr => exact hne (h.serving _ _ _ _ hp)

/-- A step after which the session goes on. -/
theorem Unstale.step_session (h : Unstale used c) (hl : Located used place c) (hsends : c.SendsOwn)
    (he : Effect prof c a t) (hs : t.session = c.session)
    (hgen : t.bulkOutGeneration = c.bulkOutGeneration) : Unstale used t where
  inEvents event hevent hne := by
    rw [hs] at hne ⊢
    rcases he.inEvent hevent with hold | ⟨endpoint, move, w, w', events, -, hw, hst, -, -, hnew⟩
    · exact h.inEvents event hold hne
    · exact absurd (hsends.ins endpoint w move w' events hw hst event hnew) hne
  outEvents event hevent hg hne := by
    rw [hs] at hne ⊢
    rw [hgen] at hg
    rcases he.outEvent hevent with hold | ⟨endpoint, move, w, w', events, -, hw, hst, hnew⟩
    · exact h.outEvents event hold hg hne
    · exact absurd (hsends.outs endpoint w w' events hw (OutWorker.step_turn hst) event hnew) hne
  wire key hk reply hr hsession hseq := by
    cases reply with
    | submit n urb source response =>
      rcases he.reply hr with hold | ⟨hn, hnew⟩
      · exact h.wire key hk _ hold hsession hseq
      · have hkey : key = ⟨c.session, key.seqnum⟩ := by
          rw [← hn, show n = key.session from hsession]
        rw [hkey] at hk
        have hown := h.answered hl hnew hseq hk
        rw [hkey]
        exact (congrArg (Option.map (UrbKey.mk urb.session)) hseq).trans (by rw [hown]; rfl)
    | imported session response => cases hseq
    | unlink session seqnum response => cases hseq
  serving command urb remaining awaiting hp := by
    rw [hs]
    rcases he.serving hp with ⟨-, -, rfl, -⟩ | ⟨remaining', awaiting', hp', -⟩
    · rfl
    · exact h.serving command urb remaining' awaiting' hp'

/-- A new session has used no number yet. -/
theorem Unstale.importDone (h : Unstale used c) (hused : ∀ key ∈ used, key.session ≤ c.session)
    (outcome : ImportOutcome) : Unstale used (c.importDone outcome) := by
  have hnew : ∀ seqnum, ⟨(c.importDone outcome).session, seqnum⟩ ∉ used := by
    intro seqnum hm
    have hle := hused _ hm
    rw [importDone_session] at hle
    exact absurd hle (Nat.not_succ_le_self _)
  refine ⟨fun event _ _ => hnew _, fun event _ _ _ => hnew _, fun key hk reply hr => ?_,
    fun command urb remaining awaiting hp => ?_⟩
  · rcases importDone_wire hr with hold | ⟨n, response, rfl⟩
    · exact h.wire key hk reply hold
    · exact fun _ hseq => nomatch hseq
  · rw [(importDone_frame c outcome).2.2] at hp
    cases hp

theorem Unstale.dispatch (h : Unstale used c) (hstale : c.UsesUnstale a) :
    Unstale (used ++ c.keysBy a) c := by
  have hnone : c.keysBy a = [] → Unstale (used ++ c.keysBy a) c := by
    intro hk
    rw [hk, List.append_nil]
    exact h
  cases a with
  | submit command =>
    cases hd : c.device with
    | none =>
      refine hnone ?_
      rw [keysBy, Chronicle.dispatchedBy, hd]
      rfl
    | some device =>
      rw [keysBy_submit (by simp [hd])]
      exact h.use (hstale (by simp [hd]))
  | _ => exact hnone rfl

theorem Unstale.step (h : Unstale used c) (hl : Located used place c) (hsends : c.SendsOwn)
    (hused : ∀ key ∈ used, key.session ≤ c.session) (hstale : c.UsesUnstale a)
    (he : Effect prof c a t) : Unstale (used ++ c.keysBy a) t := by
  by_cases himport : ∃ outcome, a = .importDone outcome
  · obtain ⟨outcome, rfl⟩ := himport
    obtain ⟨rfl, -⟩ := he.importDone_eq rfl
    rw [show c.keysBy (.importDone outcome) = [] from rfl, List.append_nil]
    exact h.importDone hused outcome
  · have hno : ∀ outcome, a ≠ .importDone outcome := fun outcome ha => himport ⟨outcome, ha⟩
    have hs : t.session = c.session := he.session.resolve_left fun ⟨outcome, ha, _⟩ => hno _ ha
    exact (h.dispatch hstale).step_session (hl.mono (List.subset_append_left _ _)) hsends he hs
      (he.generation hno)

end Connection

namespace Chronicle

variable {prof : Profile} {torn : Urb → Nat} {s t : Chronicle} {a : Action}

/-- The URBs that were dispatched. -/
def used (s : Chronicle) : List UrbKey :=
  s.submits.map fun p => ⟨p.1.session, p.2.header.seqnum⟩

/-- The numbers on the `RET_SUBMIT`s of a session. -/
def retSeqnums (s : Chronicle) (session : Nat) : List UInt32 :=
  (s.conn.wire.filter (·.session = session)).filterMap Reply.submitSeqnum?

/-- Each URB has at most one `RET_SUBMIT` in its session, and none if it was unlinked there
    with success. -/
structure OneOutcome (s : Chronicle) : Prop where
  once : ∀ p ∈ s.submits, (s.retSeqnums p.1.session).count p.2.header.seqnum ≤ 1
  exclusive : ∀ session seqnum, Unlinked s.conn.wire session seqnum →
    ¬ Lusbip.Answered s.conn.wire session seqnum

/-- What is kept in every step. -/
structure Accounted (s : Chronicle) : Prop where
  traced : Traced (fun _ _ => True) s
  dated : Dated s
  located : ∃ place, Connection.Located s.used place s.conn
  unstale : Connection.Unstale s.used s.conn

theorem accounted_init : Accounted {} :=
  ⟨traced_init, dated_init, ⟨_, Connection.located_init⟩, Connection.unstale_init⟩

theorem Traced.sendsOwn (h : Traced (fun _ _ => True) s) : s.conn.SendsOwn where
  ins _ _ _ _ _ hw hst event he := (h.inEvents_own hw hst event he).1
  outs _ _ _ _ hw hst event he := (h.outEvents_own hw hst event he).1

/-- A number that is new in the session makes a new key. -/
theorem keysBy_new (hnew : s.UsesNew a) : ∀ key ∈ s.conn.keysBy a, key ∉ s.used := by
  intro key hk hm
  cases a with
  | submit command =>
    cases hd : s.conn.device with
    | none =>
      rw [Connection.keysBy, dispatchedBy, hd] at hk
      cases hk
    | some device =>
      rw [Connection.keysBy_submit (by simp [hd])] at hk
      obtain ⟨p, hp, heq⟩ := List.mem_map.mp (List.mem_singleton.mp hk ▸ hm)
      obtain ⟨hsession, hseq⟩ := UrbKey.mk.inj heq
      exact hnew (List.mem_map.mpr ⟨p, List.mem_filter.mpr ⟨hp, decide_eq_true hsession⟩, hseq⟩)
  | _ => cases hk

theorem Accounted.step (h : Accounted s) (hnew : s.UsesNew a) (hstale : s.conn.UsesUnstale a)
    (ht : step prof torn s a = some t) : Accounted t := by
  obtain ⟨he, hsub, -⟩ := step_eq_some ht
  obtain ⟨place, hl⟩ := h.located
  have hused : t.used = s.used ++ s.conn.keysBy a := by
    rw [used, hsub, List.map_append]
    rfl
  have hsessions : ∀ key ∈ s.used, key.session ≤ s.conn.session := by
    intro key hk
    obtain ⟨p, hp, rfl⟩ := List.mem_map.mp hk
    exact h.dated.session p hp
  refine ⟨h.traced.step admits_true (makes_true prof s a) ht, h.dated.step ht, ?_, ?_⟩
  · rw [hused]
    exact hl.step h.unstale h.traced.sendsOwn (keysBy_new hnew) he
  · rw [hused]
    exact h.unstale.step hl h.traced.sendsOwn hsessions hstale he

/-- The `RET_SUBMIT`s that a session has for a number are for the URB that has it there, and a
    URB is answered once. -/
theorem Accounted.oneOutcome (h : Accounted s) : s.OneOutcome := by
  obtain ⟨place, hl⟩ := h.located
  refine ⟨fun p hp => ?_, hl.exclusive⟩
  have hused : ⟨p.1.session, p.2.header.seqnum⟩ ∈ s.used := List.mem_map_of_mem hp
  have hone := List.nodup_iff_count_le_one.mp (hl.lists .answered).1
    ⟨p.1.session, p.2.header.seqnum⟩
  refine le_trans ?_ hone
  simp only [retSeqnums, Connection.listAt, Connection.answered, List.count_eq_countP,
    List.countP_filterMap, List.countP_filter]
  refine List.countP_mono_left fun reply hr hcount => ?_
  obtain ⟨hseq, hsession⟩ := Bool.and_eq_true_iff.mp hcount
  have hs : reply.submitSeqnum? = some p.2.header.seqnum := by
    cases hreply : reply.submitSeqnum? with
    | none => simp [hreply] at hseq
    | some seqnum => simpa [hreply] using hseq
  have hkey := h.unstale.wire _ hused reply hr (of_decide_eq_true hsession) hs
  simp [hkey]

/-- **At most one outcome for a URB.** On a connection, with any number of imports and in any
    interleaving of the handler with its workers: as long as the client uses no sequence number
    twice in a session, and none that an event of an earlier session bears, no URB has two
    `RET_SUBMIT`s in its session, and none has a `RET_SUBMIT` beside a `RET_UNLINK` with
    status 0. -/
theorem oneOutcome_of_unstale (prof : Profile) (torn : Urb → Nat) (acts : List Action)
    (h : Along (step prof torn) (fun s a => s.UsesNew a ∧ s.conn.UsesUnstale a) {} acts) :
    Throughout (step prof torn) OneOutcome {} acts :=
  throughout_of_along (fun _ _ _ hs ha ht => hs.step ha.1 ha.2 ht) (fun _ hs => hs.oneOutcome)
    accounted_init h

/-- The read of a first session is answered there; the client imports the device again, and
    reads under the same number. -/
def readAgain : List Action :=
  Connection.attach ++ [Connection.submitRead 1] ++ Connection.startRead ++
    [.inCompletion 0x81 (.ok [0x2A]), .deliverIn] ++ Connection.importAgain ++
    [.inOpened 0x81 (some 64), Connection.submitRead 1] ++ Connection.startRead ++
    [.inCompletion 0x81 (.ok [0x2B]), .deliverIn]

theorem readAgain_oneOutcome :
    Throughout (step .release fun _ => 0) OneOutcome {} readAgain :=
  oneOutcome_of_unstale .release (fun _ => 0) readAgain (by decide +kernel)

/-- The first session ends before its event is delivered. The client submits a read under the
    same number in the second one, and gets the event of the first. -/
def readAcrossImport : List Action :=
  Connection.attach ++ [Connection.submitRead 1] ++ Connection.startRead ++
    [.inCompletion 0x81 (.ok [0x2A])] ++ Connection.importAgain ++
    [.inOpened 0x81 (some 64), Connection.submitRead 1, .deliverIn] ++ Connection.startRead ++
    [.inCompletion 0x81 (.ok [0x2B]), .deliverIn]

/-- **A URB is answered twice in its session**: once with the data of its own read, and once
    with that of a URB of the session before. -/
theorem readAcrossImport_not_oneOutcome :
    ¬ ∀ acts, Along (step .release fun _ => 0) UsesNew {} acts →
      Throughout (step .release fun _ => 0) OneOutcome {} acts := by
  intro h
  have hrun : (run (step .release fun _ => 0) {} readAcrossImport).any (fun s =>
      s.submits.any fun p => 1 < (s.retSeqnums p.1.session).count p.2.header.seqnum) = true := by
    decide +kernel
  obtain ⟨s, hs, hsubmits⟩ := (Option.any_eq_true _ _).mp hrun
  obtain ⟨p, hp, hlt⟩ := List.any_eq_true.mp hsubmits
  have hone := ((h readAcrossImport (by decide +kernel)).of_run hs).once p hp
  exact absurd (of_decide_eq_true hlt) hone.not_gt

end Chronicle
end Lusbip
