import Lusbip.Session.BulkOut

/-!
# What an answered flush says

The bulk-OUT worker takes its commands in order. So when it answers a flush with success,
every URB that was accepted before the flush was sent has been written, and flushed with it
or earlier. `Ledger` is the invariant behind that. Times are command counts: a URB was
dispatched at its `index`, a flush was sent at its `sentAt`, and in the queue no flush
stands in front of a URB that is older than it.
-/

namespace Lusbip

/-- The reply channel of a command that flushes. -/
def BulkOutCommand.reply? : BulkOutCommand → Option Oneshot
  | .flush sender => some sender
  | .shutdown sender => some sender
  | _ => none

/-- `command` may stand in front of `command'`: a flush is not in front of an older URB. -/
def BulkOutCommand.Before (command command' : BulkOutCommand) : Prop :=
  ∀ sender, command.reply? = some sender → ∀ urb ∈ command'.urbs, sender.sentAt ≤ urb.index

namespace OutWorker

/-- Everything the worker accepted before the given time is on the device. -/
def DeliveredBefore (w : OutWorker) (time : Nat) : Prop :=
  ∀ urb ∈ w.accepted, urb.index < time → urb ∈ w.delivered

/-- Where a URB is until it is on the device. -/
def OnTheWay (w : OutWorker) (urb : Urb) : Prop :=
  (∃ command ∈ w.commands, urb ∈ command.urbs) ∨ urb ∈ w.buffered ∨ urb ∈ w.delivered

structure Ledger (clock : Nat) (w : OutWorker) : Prop where
  accepted : ∀ urb ∈ w.accepted, urb.index < clock
  senders : ∀ command ∈ w.commands, ∀ sender, command.reply? = some sender →
    sender.sentAt ≤ clock
  order : w.commands.Pairwise BulkOutCommand.Before
  /-- A worker that has not failed has lost nothing. -/
  kept : w.phase ≠ .stopped → w.health = none → ∀ urb ∈ w.accepted, w.OnTheWay urb
  clean : w.health = none → w.needsFlush = false → w.buffered = []
  busy : ∀ command, w.phase = .busy command → w.health = none
  answered : ∀ sender, (sender, .ok ()) ∈ w.answers → w.DeliveredBefore sender.sentAt
  answeredSent : ∀ sender result, (sender, result) ∈ w.answers → sender.sentAt ≤ clock

variable {clock clock' : Nat} {w w' : OutWorker}

theorem ledger_start (clock : Nat) (address : UInt8) : Ledger clock { address := address } :=
  ⟨fun _ h => (nomatch h), fun _ h => (nomatch h), List.Pairwise.nil,
    fun _ _ _ h => (nomatch h), fun _ _ => rfl, fun _ h => (nomatch h),
    fun _ h => (nomatch h), fun _ _ h => (nomatch h)⟩

theorem Ledger.mono (h : Ledger clock w) (hc : clock ≤ clock') : Ledger clock' w :=
  { h with
    accepted := fun urb hu => (h.accepted urb hu).trans_le hc
    senders := fun command hm sender hs => (h.senders command hm sender hs).trans hc
    answeredSent := fun sender result hs => (h.answeredSent sender result hs).trans hc }

/-! ## What enters the queue -/

theorem DeliveredBefore.push {time : Nat} (h : w.DeliveredBefore time)
    {command : BulkOutCommand} (hc : ∀ urb ∈ command.urbs, time ≤ urb.index) :
    (w.push command).DeliveredBefore time := by
  intro urb hu ht
  rcases List.mem_append.mp hu with hu | hu
  · exact h urb hu ht
  · exact absurd ht (Nat.not_lt.mpr (hc urb hu))

/-- A command enters at the end of the queue, with a time that has not passed. -/
theorem Ledger.push (h : Ledger clock w) {command : BulkOutCommand} (hc : clock ≤ clock')
    (hu : ∀ urb ∈ command.urbs, urb.index = clock ∧ clock < clock')
    (hs : ∀ sender, command.reply? = some sender → sender.sentAt ≤ clock') :
    Ledger clock' (w.push command) where
  accepted urb hm := by
    rcases List.mem_append.mp hm with hm | hm
    · exact (h.accepted urb hm).trans_le hc
    · obtain ⟨hi, hlt⟩ := hu urb hm
      rwa [hi]
  senders command' hm sender hr := by
    rw [commands_push] at hm
    rcases List.mem_append.mp hm with hm | hm
    · exact (h.senders command' hm sender hr).trans hc
    · rw [List.mem_singleton.mp hm] at hr
      exact hs sender hr
  order := by
    rw [commands_push]
    refine List.pairwise_append.mpr ⟨h.order, List.pairwise_singleton _ _, ?_⟩
    intro command' hm command'' hm' sender hr urb hurb
    rw [List.mem_singleton.mp hm'] at hurb
    rw [(hu urb hurb).1]
    exact h.senders command' hm sender hr
  -- A URB that has just been accepted waits in the queue.
  kept hp hh urb hm := by
    rcases List.mem_append.mp hm with hm | hm
    · rcases h.kept hp hh urb hm with ⟨command', hmem, hurb⟩ | hb
      · refine Or.inl ⟨command', ?_, hurb⟩
        rw [commands_push]
        exact List.mem_append_left _ hmem
      · exact Or.inr hb
    · refine Or.inl ⟨command, ?_, hm⟩
      rw [commands_push]
      exact List.mem_append_right _ List.mem_cons_self
  clean := h.clean
  busy := h.busy
  answered sender hm := by
    refine (h.answered sender hm).push fun urb hurb => ?_
    rw [(hu urb hurb).1]
    exact h.answeredSent sender _ hm
  answeredSent sender result hm := (h.answeredSent sender result hm).trans hc

/-! ## A flush that succeeds -/

/-- A flush at the head of the commands leaves nothing older behind it. -/
theorem Ledger.delivered_of_head (h : Ledger clock w) {command : BulkOutCommand}
    {rest : List BulkOutCommand} {sender : Oneshot} (hc : w.commands = command :: rest)
    (hs : command.reply? = some sender) (hp : w.phase ≠ .stopped) (hh : w.health = none) {urb : Urb}
    (hu : urb ∈ w.accepted) (ht : urb.index < sender.sentAt) :
    urb ∈ w.buffered ∨ urb ∈ w.delivered := by
  rcases h.kept hp hh urb hu with ⟨command', hm, hurb⟩ | hb
  · rw [hc] at hm
    have hbefore := h.order
    rw [hc] at hbefore
    rcases List.mem_cons.mp hm with rfl | hm
    · cases command' with
      | submit request => cases hs
      | _ => cases hurb
    · have := (List.pairwise_cons.mp hbefore).1 command' hm sender hs urb hurb
      exact absurd ht (Nat.not_lt.mpr this)
  · exact hb

/-! ## A step -/

/-- What is delivered stays delivered. -/
theorem Turn.delivered {events : List BulkOutEvent} (h : Turn w w' events) {urb : Urb}
    (hu : urb ∈ w.delivered) : urb ∈ w'.delivered := by
  cases h with
  | rejected request queue err hp hq hh => exact hu
  | started command queue hp hq hh => exact hu
  | answered sender queue result hp hq hr => cases result <;> exact hu
  | shut sender queue result hp hq hr => exact hu
  | unlinked seqnum queue hp hq => exact hu
  | written request result hp => cases result <;> exact hu
  | flushed sender result hp =>
    cases result with
    | ok u => exact List.mem_append_left _ hu
    | error err => exact hu
  | flushedAndShut sender result hp =>
    cases result with
    | ok u => exact List.mem_append_left _ hu
    | error err => exact hu
  | idleFlushed result hp =>
    cases result with
    | ok u => exact List.mem_append_left _ hu
    | error err => exact hu

theorem Turn.deliveredBefore {events : List BulkOutEvent} (h : Turn w w' events) {time : Nat}
    (hd : w.DeliveredBefore time) : w'.DeliveredBefore time := by
  intro urb hu ht
  rw [h.moves.accepted] at hu
  exact h.delivered (hd urb hu ht)

theorem OnTheWay.pass {urb : Urb} (h : w.OnTheWay urb)
    (hc : ∀ command ∈ w.commands, urb ∈ command.urbs →
      command ∈ w'.commands ∨ urb ∈ w'.buffered)
    (hb : urb ∈ w.buffered → urb ∈ w'.buffered ∨ urb ∈ w'.delivered)
    (hd : urb ∈ w.delivered → urb ∈ w'.delivered) : w'.OnTheWay urb := by
  rcases h with ⟨command, hm, hurb⟩ | h | h
  · rcases hc command hm hurb with hm | hm
    · exact Or.inl ⟨command, hm, hurb⟩
    · exact Or.inr (Or.inl hm)
  · exact Or.inr (hb h)
  · exact Or.inr (Or.inr (hd h))

/-- A command that carries no URB is taken off the head. -/
theorem OnTheWay.behind {urb : Urb} (h : w.OnTheWay urb) (command : BulkOutCommand)
    (hc : w.commands = command :: w'.commands) (hurbs : command.urbs = [])
    (hb : urb ∈ w.buffered → urb ∈ w'.buffered ∨ urb ∈ w'.delivered)
    (hd : urb ∈ w.delivered → urb ∈ w'.delivered) : w'.OnTheWay urb := by
  refine h.pass (fun command' hm hurb => ?_) hb hd
  rw [hc] at hm
  rcases List.mem_cons.mp hm with rfl | hm
  · rw [hurbs] at hurb
    cases hurb
  · exact Or.inl hm

theorem Ledger.turn_kept (h : Ledger clock w) {events : List BulkOutEvent}
    (ht : Turn w w' events) (hp' : w'.phase ≠ .stopped) (hh' : w'.health = none) :
    ∀ urb ∈ w'.accepted, w'.OnTheWay urb := by
  intro urb hu
  rw [ht.moves.accepted] at hu
  cases ht with
  -- A write that failed has set the health: nothing is promised from there on.
  | rejected request queue err hp hq hh =>
    rw [hh] at hh'
    cases hh'
  -- The command at the head is now the one in hand.
  | started command queue hp hq hh =>
    have hon := h.kept (by rw [hp]; simp) hh urb hu
    refine hon.pass (fun command' hm hurb => Or.inl ?_) Or.inl id
    rw [commands_of_receiving hp, hq] at hm
    exact hm
  -- A flush at the head carries no URB, so what is on the way stays behind it.
  | answered sender queue result hp hq hr =>
    cases result with
    | error err => cases hh'
    | ok u =>
      have hon := h.kept (by rw [hp]; simp) (hr rfl).1 urb hu
      refine hon.behind (.flush sender) ?_ rfl Or.inl id
      rw [commands_of_receiving hp, hq, endFlush_commands]
  | shut sender queue result hp hq hr => exact absurd rfl hp'
  | unlinked seqnum queue hp hq =>
    have hon := h.kept (by rw [hp]; simp) hh' urb hu
    refine hon.behind (.unlink seqnum) ?_ rfl Or.inl id
    rw [commands_of_receiving hp, hq, commands_of_receiving (w := { w with queue := queue }) hp]
  | written request result hp =>
    cases result with
    | error err => cases hh'
    | ok u =>
      have hon := h.kept (by rw [hp]; simp) (h.busy _ hp) urb hu
      refine hon.pass (fun command hm hurb => ?_) (fun hb => Or.inl (List.mem_append_left _ hb)) id
      rw [commands_of_busy hp] at hm
      -- The command that was in hand has been written, the others still wait.
      rcases List.mem_cons.mp hm with rfl | hm
      · exact Or.inr (List.mem_append_right _ hurb)
      · exact Or.inl hm
  | flushed sender result hp =>
    cases result with
    | error err => cases hh'
    | ok u =>
      have hon := h.kept (by rw [hp]; simp) (h.busy _ hp) urb hu
      refine hon.behind (.flush sender) ?_ rfl (fun hb => Or.inr (List.mem_append_right _ hb))
        (fun hd => List.mem_append_left _ hd)
      rw [commands_of_busy hp, endFlush_commands, flushed_queue]
  | flushedAndShut sender result hp => exact absurd rfl hp'
  | idleFlushed result hp =>
    cases result with
    | error err => cases hh'
    | ok u =>
      have hon := h.kept (by rw [hp]; simp) hh' urb hu
      exact hon.pass (fun command hm _ => Or.inl hm)
        (fun hb => Or.inr (List.mem_append_right _ hb)) (fun hd => List.mem_append_left _ hd)

theorem Ledger.turn_clean (h : Ledger clock w) {events : List BulkOutEvent}
    (ht : Turn w w' events) (hh' : w'.health = none) (hn' : w'.needsFlush = false) :
    w'.buffered = [] := by
  cases ht with
  | rejected request queue err hp hq hh => exact h.clean hh' hn'
  | started command queue hp hq hh => exact h.clean hh' hn'
  | answered sender queue result hp hq hr =>
    cases result with
    | error err => cases hh'
    | ok u => exact h.clean (hr rfl).1 (hr rfl).2
  | shut sender queue result hp hq hr => exact h.clean hh' hn'
  | unlinked seqnum queue hp hq => exact h.clean hh' hn'
  | written request result hp =>
    cases result with
    | error err => cases hh'
    | ok u => cases hn'
  | flushed sender result hp =>
    cases result with
    | error err => cases hh'
    | ok u => rfl
  | flushedAndShut sender result hp =>
    cases result with
    | error err => exact h.clean hh' hn'
    | ok u => rfl
  | idleFlushed result hp =>
    cases result with
    | error err => cases hh'
    | ok u => rfl

/-- The answer to the flush at the head: a good one only if nothing older is left. -/
theorem Ledger.answer_of_head (h : Ledger clock w) {events : List BulkOutEvent}
    (ht : Turn w w' events) (command : BulkOutCommand) {rest : List BulkOutCommand}
    {sender sender' : Oneshot} (result' : Except String Unit) {result : Except String Unit}
    (hc : w.commands = command :: rest) (hs : command.reply? = some sender')
    (hp : w.phase ≠ .stopped)
    (hr : result' = .ok () → w.health = none ∧ ∀ urb ∈ w.buffered, urb ∈ w'.delivered)
    (hm : (sender, result) ∈ w.answers ++ [(sender', result')]) :
    (sender, result) ∈ w.answers ∨ sender.sentAt ≤ clock ∧
      (result = .ok () → w'.DeliveredBefore sender.sentAt) := by
  rcases List.mem_append.mp hm with hm | hm
  · exact Or.inl hm
  · obtain ⟨rfl, rfl⟩ := Prod.mk.inj (List.mem_singleton.mp hm)
    refine Or.inr ⟨h.senders command (hc ▸ List.mem_cons_self) _ hs, fun hok urb hu hlt => ?_⟩
    rw [ht.moves.accepted] at hu
    rcases h.delivered_of_head hc hs hp (hr hok).1 hu hlt with hb | hd
    · exact (hr hok).2 urb hb
    · exact ht.delivered hd

theorem Ledger.turn_answers (h : Ledger clock w) {events : List BulkOutEvent}
    (ht : Turn w w' events) {sender : Oneshot} {result : Except String Unit}
    (hm : (sender, result) ∈ w'.answers) :
    (sender, result) ∈ w.answers ∨ sender.sentAt ≤ clock ∧
      (result = .ok () → w'.DeliveredBefore sender.sentAt) := by
  cases ht with
  | answered sender' queue result' hp hq hr =>
    refine h.answer_of_head (.answered sender' queue result' hp hq hr) (.flush sender') result'
      ((commands_of_receiving hp).trans hq) rfl (by rw [hp]; simp) ?_ ?_
    · intro hok
      refine ⟨(hr hok).1, fun urb hb => ?_⟩
      rw [h.clean (hr hok).1 (hr hok).2] at hb
      cases hb
    · cases result' <;> exact hm
  | shut sender' queue result' hp hq hr =>
    refine h.answer_of_head (.shut sender' queue result' hp hq hr) (.shutdown sender') result'
      ((commands_of_receiving hp).trans hq) rfl (by rw [hp]; simp) ?_ hm
    intro hok
    refine ⟨(hr hok).1, fun urb hb => ?_⟩
    rw [h.clean (hr hok).1 (hr hok).2] at hb
    cases hb
  | flushed sender' result' hp =>
    refine h.answer_of_head (.flushed sender' result' hp) (.flush sender') result'
      (commands_of_busy hp) rfl (by rw [hp]; simp) ?_ ?_
    · rintro rfl
      exact ⟨h.busy _ hp, fun urb hb => List.mem_append_right _ hb⟩
    · cases result' <;> exact hm
  | flushedAndShut sender' result' hp =>
    refine h.answer_of_head (.flushedAndShut sender' result' hp) (.shutdown sender') result'
      (commands_of_busy hp) rfl (by rw [hp]; simp) ?_ ?_
    · rintro rfl
      exact ⟨h.busy _ hp, fun urb hb => List.mem_append_right _ hb⟩
    · cases result' <;> exact hm
  | written request result' hp => cases result' <;> exact Or.inl hm
  | idleFlushed result' hp => cases result' <;> exact Or.inl hm
  | _ => exact Or.inl hm

theorem Ledger.turn (h : Ledger clock w) {events : List BulkOutEvent} (ht : Turn w w' events) :
    Ledger clock w' where
  accepted urb hu := h.accepted urb (ht.moves.accepted ▸ hu)
  senders command hm := h.senders command (ht.moves.commands.subset hm)
  order := h.order.sublist ht.moves.commands
  kept := h.turn_kept ht
  clean := h.turn_clean ht
  busy command hp := ht.busy h.busy hp
  answered sender hm := by
    rcases h.turn_answers ht hm with hm | ⟨-, hd⟩
    · exact ht.deliveredBefore (h.answered sender hm)
    · exact hd rfl
  answeredSent sender result hm := by
    rcases h.turn_answers ht hm with hm | ⟨hs, -⟩
    · exact h.answeredSent sender result hm
    · exact hs

end OutWorker
end Lusbip
