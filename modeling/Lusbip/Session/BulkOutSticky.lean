import Lusbip.Lib.History
import Lusbip.Lib.Transition
import Lusbip.Session.BulkOut

/-!
# What a bulk-OUT worker says about its writes

The worker alone, with whoever sends it commands, and with a writer that may fail at any time. Its
log has an entry for every command it has settled and for every flush of its own: the command, what
the writer was asked for and came back with, the acknowledgement that was sent and what went to the
reply channel.

Two flags stand between the log and what the worker says. `health` keeps the first failure, and
every command looks at it first. `needsFlush` is cleared by a flush, also by one that has failed;
that is safe because a failed flush is a failure. The invariant ties them to the log: a healthy
worker that needs no flush has flushed all it has written.
-/

namespace Lusbip

open Lib Lib.Transition

/-! ## The log -/

/-- What one settled command, or one flush of the worker's own, has come to. -/
structure OutEntry where
  /-- The command; there is none behind an idle flush, nor behind the final one. -/
  command : Option BulkOutCommand
  /-- What the writer came back with, if it was asked. -/
  io : Option (Except String Unit)
  events : List BulkOutEvent
  answers : List (Oneshot × Except String Unit)

namespace OutEntry

/-- A write or a flush has failed. -/
def Broke (x : OutEntry) : Prop := ∃ err, x.io = some (.error err)

/-- A URB was acknowledged with status 0. -/
def Acknowledged (x : OutEntry) : Prop :=
  ∃ event ∈ x.events, event.response.submitStatus? = some 0

/-- The writer has written the data of a `Submit`. -/
def Wrote (x : OutEntry) : Prop :=
  (∃ request, x.command = some (.submit request)) ∧ x.io = some (.ok ())

/-- The writer has flushed. -/
def Flushed (x : OutEntry) : Prop :=
  (∀ request, x.command ≠ some (.submit request)) ∧ x.io = some (.ok ())

/-- A `Flush` or `Shutdown` was told that all is well. -/
def ReportsSuccess (x : OutEntry) : Prop := ∃ sender, (sender, Except.ok ()) ∈ x.answers

/-- How a command is settled after a failure: a `Submit` is answered with a failure and nothing
    is written, a `Flush` and a `Shutdown` report an error. -/
def Rejects (x : OutEntry) : Prop :=
  match x.command with
  | some (.submit request) =>
      x.io = none ∧ ∃ err, x.events =
        [OutWorker.event request (OutWorker.submitResponse request.data (.error err))]
  | some (.flush sender) => ∃ err, x.answers = [(sender, .error err)]
  | some (.shutdown sender) => ∃ err, x.answers = [(sender, .error err)]
  | _ => True

end OutEntry

def OutMove.io? : OutMove → Option (Except String Unit)
  | .command => none
  | .io result => some result
  | .idleFlush result => some result

namespace OutWorker

/-- The command a move works on. -/
def command? (w : OutWorker) : OutMove → Option BulkOutCommand
  | .command => w.queue.head?
  | .io _ => match w.phase with
    | .busy command => some command
    | _ => none
  | .idleFlush _ => none

/-- The entry for a step to `w'`, unless a command has only been begun. -/
def record? (w : OutWorker) (move : OutMove) (w' : OutWorker) (events : List BulkOutEvent) :
    Option OutEntry :=
  match w'.phase with
  | .busy _ => none
  | _ => some
      { command := w.command? move
        io := move.io?
        events := events
        answers := w'.answers.drop w.answers.length }

end OutWorker

/-! ## The worker and its surroundings -/

structure OutDesk where
  worker : OutWorker
  /-- No sender is left. -/
  closed : Bool := false
  /-- Nobody takes events any more. -/
  deaf : Bool := false
  /-- The commands that were sent. -/
  sent : List BulkOutCommand := []
  log : List OutEntry := []

inductive OutAction where
  | send (command : BulkOutCommand)
  /-- The last sender is dropped. -/
  | close
  /-- The receiver of the events is dropped. -/
  | hangUp
  | move (move : OutMove)
  /-- `recv` comes back with `None`; a flush that is still owed returns. -/
  | finish (result : Except String Unit)

namespace OutDesk

def start (address : UInt8) : OutDesk where
  worker := { address }

/-- One step. A worker that cannot send an event returns. -/
def step (s : OutDesk) : OutAction → Option OutDesk
  | .send command =>
      if s.closed then none
      else
        match s.worker.send command with
        | .sent w => some { s with worker := w, sent := s.sent ++ [command] }
        | _ => none
  | .close => some { s with closed := true }
  | .hangUp => some { s with deaf := true }
  | .move move =>
      match s.worker.step move with
      | none => none
      | some (w, events) =>
          some { s with
            worker := if s.deaf ∧ events ≠ [] then w.stop else w
            log := s.log ++ (s.worker.record? move w events).toList }
  | .finish result =>
      if s.closed ∧ s.worker.phase = .receiving ∧ s.worker.queue = [] then
        if s.worker.needsFlush then
          some { s with
            worker := (s.worker.flushed result).stop
            log := s.log ++ [{ command := none, io := some result, events := [], answers := [] }] }
        else some { s with worker := s.worker.stop }
      else none

/-- The commands that have been settled, in order. -/
def settled (s : OutDesk) : List BulkOutCommand := s.log.filterMap (·.command)

end OutDesk

/-! ## What the log is to say -/

structure HonestLog (log : List OutEntry) : Prop where
  /-- Failures are sticky. -/
  sticky : Ruled (fun before x => (∃ y ∈ before, y.Broke) → x.Rejects) log
  /-- Acknowledged data has been written. -/
  written : ∀ x ∈ log, x.Acknowledged → x.Wrote
  /-- A success is reported only with all acknowledged data flushed. -/
  flushed : Ruled (fun before x => x.ReportsSuccess →
    Followed OutEntry.Acknowledged OutEntry.Flushed (before ++ [x])) log

structure OutDesk.Honest (s : OutDesk) : Prop where
  log : HonestLog s.log
  /-- No command is passed over as long as the worker runs. -/
  inOrder : s.worker.phase ≠ .stopped → s.sent = s.settled ++ s.worker.commands
  /-- A running worker goes on with the commands that are there, once its writer returns. -/
  goesOn : s.worker.phase ≠ .stopped → s.worker.commands ≠ [] →
    ∃ move : Except String Unit → OutMove, ∀ result, ∃ t,
      s.step (.move (move result)) = some t

/-! ## What a step records -/

/-- A step of a worker with the entry for it: what it takes, what is answered, and what becomes of
    the two flags. -/
inductive Records (w w' : OutWorker) : Option OutEntry → Prop where
  | rejected (request : BulkOutRequest) (err : String)
      (hc : w.commands = .submit request :: w'.commands) (hp : w'.phase = .receiving)
      (hh : w.health = some err) (hh' : w'.health = w.health)
      (hn : w'.needsFlush = w.needsFlush) :
      Records w w' (some ⟨some (.submit request), none,
        [OutWorker.event request (OutWorker.submitResponse request.data (.error err))], []⟩)
  | started (hc : w.commands = w'.commands)
      (hp : ∃ command, w'.phase = .busy command ∧ ∀ seqnum, command ≠ .unlink seqnum)
      (hh : w.health = none) (hh' : w'.health = none) (hn : w'.needsFlush = w.needsFlush) :
      Records w w' none
  | written (request : BulkOutRequest) (result : Except String Unit)
      (hb : w.phase = .busy (.submit request))
      (hc : w.commands = .submit request :: w'.commands) (hp : w'.phase = .receiving)
      (hok : result = .ok () → w'.needsFlush = true)
      (herr : ∀ err, result = .error err → w'.health = some err) :
      Records w w' (some ⟨some (.submit request), some result,
        [OutWorker.event request (OutWorker.submitResponse request.data result)], []⟩)
  /-- A `Flush` or `Shutdown` answered without the writer. -/
  | told (command : BulkOutCommand) (sender : Oneshot) (result : Except String Unit)
      (hcommand : command = .flush sender ∨ command = .shutdown sender)
      (hc : w'.phase ≠ .stopped → w.commands = command :: w'.commands)
      (hp : ∀ c, w'.phase ≠ .busy c)
      (hok : result = .ok () → w.health = none ∧ w.needsFlush = false ∧
        w'.health = none ∧ w'.needsFlush = false)
      (herr : ∀ err, result = .error err → w'.health ≠ none) :
      Records w w' (some ⟨some command, none, [], [(sender, result)]⟩)
  /-- A `Flush` or `Shutdown` answered by the writer. -/
  | flushed (command : BulkOutCommand) (sender : Oneshot) (result : Except String Unit)
      (hcommand : command = .flush sender ∨ command = .shutdown sender)
      (hb : w.phase = .busy command)
      (hc : w'.phase ≠ .stopped → w.commands = command :: w'.commands)
      (hp : ∀ c, w'.phase ≠ .busy c)
      (herr : ∀ err, result = .error err → w'.health ≠ none ∨ w'.phase = .stopped) :
      Records w w' (some ⟨some command, some result, [], [(sender, result)]⟩)
  | unlinked (seqnum : UInt32) (hc : w.commands = .unlink seqnum :: w'.commands)
      (hp : w'.phase = .receiving) (hh : w'.health = w.health)
      (hn : w'.needsFlush = w.needsFlush) :
      Records w w' (some ⟨some (.unlink seqnum), none, [], []⟩)
  | idleFlushed (result : Except String Unit) (hc : w.commands = w'.commands)
      (hp : w'.phase = .receiving) (hok : result = .ok () → w'.health = w.health)
      (herr : ∀ err, result = .error err → w'.health = some err) :
      Records w w' (some ⟨none, some result, [], []⟩)

namespace OutWorker

variable {w w' : OutWorker} {events : List BulkOutEvent}

theorem record?_settled {move : OutMove} {command : Option BulkOutCommand}
    {answers : List (Oneshot × Except String Unit)} (hc : w.command? move = command)
    (hp : ∀ c, w'.phase ≠ .busy c) (ha : w'.answers = w.answers ++ answers) :
    w.record? move w' events = some ⟨command, move.io?, events, answers⟩ := by
  unfold record?
  split
  · exact absurd ‹_› (hp _)
  · rw [hc, ha, List.drop_left]

theorem record?_begun {move : OutMove} {command : BulkOutCommand}
    (hp : w'.phase = .busy command) : w.record? move w' events = none := by
  rw [record?, hp]

theorem not_busy_of_receiving (hp : w.phase = .receiving) : ∀ c, w.phase ≠ .busy c := by
  intro c hc
  rw [hp] at hc
  cases hc

theorem not_busy_of_stopped (hp : w.phase = .stopped) : ∀ c, w.phase ≠ .busy c := by
  intro c hc
  rw [hp] at hc
  cases hc

/-- A command is taken up. -/
theorem receive_records {command : BulkOutCommand} {queue : List BulkOutCommand}
    (hp : w.phase = .receiving) (hq : w.queue = command :: queue)
    (h : { w with queue := queue }.receive command = (w', events)) :
    Records w w' (w.record? .command w' events) := by
  have hcommands : w.commands = command :: queue := by
    rw [commands_of_receiving hp, hq]
  -- What is recorded of a command is its answer, so that of one that is begun waits for the
  -- writer.
  have htaken : w.command? .command = some command := by
    rw [command?, hq]
    rfl
  have hrest : OutWorker.commands { w with queue := queue } = queue := commands_of_receiving hp
  have hwaits : ∀ c, OutWorker.phase { w with queue := queue } ≠ .busy c :=
    not_busy_of_receiving hp
  cases command with
  | submit request =>
    rw [receive] at h
    dsimp only at h
    split at h
    · rename_i err hh
      cases h
      rw [record?_settled htaken hwaits (List.append_nil _).symm]
      exact .rejected request err (by rw [hrest, hcommands]) hp hh rfl rfl
    · rename_i hh
      cases h
      rw [record?_begun rfl]
      exact .started (by rw [hcommands]; rfl) ⟨_, rfl, by simp⟩ hh hh rfl
  | flush sender =>
    rw [receive] at h
    dsimp only at h
    split at h
    · rename_i err hh
      cases h
      rw [record?_settled htaken (not_busy_of_receiving (by rfl)) (by rfl)]
      exact .told _ sender _ (Or.inl rfl) (fun _ => hcommands) (not_busy_of_receiving rfl)
        (fun hok => nomatch hok) fun e _ => Option.some_ne_none _
    · rename_i hh
      split at h
      · cases h
        rw [record?_begun rfl]
        exact .started (by rw [hcommands]; rfl) ⟨_, rfl, by simp⟩ hh hh rfl
      · rename_i hn
        cases h
        rw [record?_settled htaken (not_busy_of_receiving (by rfl)) (by rfl)]
        exact .told _ sender _ (Or.inl rfl) (fun _ => hcommands) (not_busy_of_receiving rfl)
          (fun _ => ⟨hh, Bool.eq_false_iff.mpr hn, hh, rfl⟩) fun e he => nomatch he
  | shutdown sender =>
    rw [receive] at h
    dsimp only at h
    split at h
    · rename_i err hh
      cases h
      rw [record?_settled htaken (not_busy_of_stopped (by rfl)) (by rfl)]
      exact .told _ sender _ (Or.inr rfl) (fun hs => absurd rfl hs) (not_busy_of_stopped rfl)
        (fun hok => nomatch hok) fun e _ hn => Option.some_ne_none err (hh.symm.trans hn)
    · rename_i hh
      split at h
      · cases h
        rw [record?_begun rfl]
        exact .started (by rw [hcommands]; rfl) ⟨_, rfl, by simp⟩ hh hh rfl
      · rename_i hn
        cases h
        have hclean := Bool.eq_false_iff.mpr hn
        rw [record?_settled htaken (not_busy_of_stopped (by rfl)) (by rfl)]
        exact .told _ sender _ (Or.inr rfl) (fun hs => absurd rfl hs) (not_busy_of_stopped rfl)
          (fun _ => ⟨hh, hclean, hh, hclean⟩) fun e he => nomatch he
  | unlink seqnum =>
    rw [receive] at h
    cases h
    rw [record?_settled htaken hwaits (List.append_nil _).symm]
    exact .unlinked seqnum (by rw [hrest, hcommands]) hp rfl rfl

/-- The writer returns. -/
theorem resume_records {result : Except String Unit} (h : w.resume result = some (w', events)) :
    Records w w' (w.record? (.io result) w' events) := by
  unfold resume at h
  split at h
  -- The writer is through with a submit, a flush or the flush of a shutdown.
  · rename_i request hb
    cases h
    have hcommands := commands_of_busy hb
    have htaken : w.command? (.io result) = some (.submit request) := by rw [command?, hb]
    cases result with
    | ok u =>
      rw [record?_settled htaken (not_busy_of_receiving (by rfl)) (by exact (List.append_nil _).symm)]
      exact .written request (.ok ()) hb hcommands rfl (fun _ => rfl) fun e he => nomatch he
    | error err =>
      rw [record?_settled htaken (not_busy_of_receiving (by rfl)) (by exact (List.append_nil _).symm)]
      refine .written request (.error err) hb hcommands rfl (fun hok => nomatch hok) ?_
      intro e he
      cases he
      rfl
  · rename_i sender hb
    cases h
    have hcommands := commands_of_busy hb
    have htaken : w.command? (.io result) = some (.flush sender) := by rw [command?, hb]
    cases result with
    | ok u =>
      rw [record?_settled htaken (not_busy_of_receiving (by rfl)) (by rfl)]
      exact .flushed _ sender _ (Or.inl rfl) hb (fun _ => hcommands) (not_busy_of_receiving rfl)
        fun e he => nomatch he
    | error err =>
      rw [record?_settled htaken (not_busy_of_receiving (by rfl)) (by rfl)]
      exact .flushed _ sender _ (Or.inl rfl) hb (fun _ => hcommands) (not_busy_of_receiving rfl)
        fun e _ => Or.inl (Option.some_ne_none _)
  · rename_i sender hb
    cases h
    have htaken : w.command? (.io result) = some (.shutdown sender) := by rw [command?, hb]
    have hanswers : ((w.flushed result).endShutdown sender result).answers =
        w.answers ++ [(sender, result)] := by
      cases result <;> rfl
    rw [record?_settled htaken (not_busy_of_stopped (by rfl)) hanswers]
    exact .flushed _ sender _ (Or.inr rfl) hb (fun hs => absurd rfl hs) (not_busy_of_stopped rfl)
      fun e _ => Or.inr rfl
  · cases h

/-- **What a step of the worker puts into the log.** -/
theorem step_records {move : OutMove} (h : w.step move = some (w', events)) :
    Records w w' (w.record? move w' events) := by
  cases move with
  | command =>
    dsimp only [step] at h
    split at h
    · rename_i command queue hp hq
      exact receive_records hp hq (Option.some.inj h)
    · cases h
  | io result => exact resume_records h
  | idleFlush result =>
    dsimp only [step] at h
    split at h
    · rename_i hw
      cases h
      have hp : ((w.flushed result).markFlushed result).phase = .receiving := by
        cases result <;> exact hw.1
      have hanswers : ((w.flushed result).markFlushed result).answers = w.answers ++ [] := by
        cases result <;> exact (List.append_nil _).symm
      rw [record?_settled rfl (not_busy_of_receiving hp) hanswers]
      refine .idleFlushed result (by cases result <;> rfl) hp (fun hok => ?_) fun e he => ?_
      · rw [hok]
        rfl
      · rw [he]
        rfl
    · cases h

end OutWorker

/-! ## The invariant -/

/-- The flags of the worker say of the log what they have to. -/
structure Sound (w : OutWorker) (log : List OutEntry) : Prop where
  honest : HonestLog log
  broken : (∃ y ∈ log, y.Broke) → w.health ≠ none ∨ w.phase = .stopped
  busy : ∀ command, w.phase = .busy command →
    w.health = none ∧ ∀ seqnum, command ≠ .unlink seqnum
  /-- A healthy worker that needs no flush has flushed what it has written. -/
  clean : w.phase ≠ .stopped → w.health = none → w.needsFlush = false →
    Followed OutEntry.Acknowledged OutEntry.Flushed log

theorem HonestLog.snoc {log : List OutEntry} {x : OutEntry} (h : HonestLog log)
    (hrejects : (∃ y ∈ log, y.Broke) → x.Rejects) (hwrote : x.Acknowledged → x.Wrote)
    (hflushed : x.ReportsSuccess →
      Followed OutEntry.Acknowledged OutEntry.Flushed (log ++ [x])) :
    HonestLog (log ++ [x]) := by
  refine ⟨h.sticky.snoc hrejects, fun y hy => ?_, h.flushed.snoc hflushed⟩
  rcases List.mem_append.mp hy with hy | hy
  · exact h.written y hy
  · rcases List.mem_singleton.mp hy with rfl
    exact hwrote

theorem exists_mem_snoc {α : Type*} {p : α → Prop} {l : List α} {x : α} :
    (∃ y ∈ l ++ [x], p y) ↔ (∃ y ∈ l, p y) ∨ p x := by
  simp [or_and_right, exists_or]

section Entries

variable {command : Option BulkOutCommand} {io : Option (Except String Unit)}
  {answers : List (Oneshot × Except String Unit)} {events : List BulkOutEvent}

theorem not_acknowledged_of_nil : ¬ OutEntry.Acknowledged ⟨command, io, [], answers⟩ := by
  rintro ⟨event, hevent, -⟩
  cases hevent

theorem not_reportsSuccess_of_nil : ¬ OutEntry.ReportsSuccess ⟨command, io, events, []⟩ := by
  rintro ⟨sender, hsender⟩
  cases hsender

theorem not_acknowledged_of_rejected {request : BulkOutRequest} {err : String} :
    ¬ OutEntry.Acknowledged ⟨command, io,
      [OutWorker.event request (OutWorker.submitResponse request.data (.error err))], answers⟩ := by
  rintro ⟨event, hevent, hstatus⟩
  rcases List.mem_singleton.mp hevent with rfl
  cases hstatus

theorem not_broke_of_none : ¬ OutEntry.Broke ⟨command, none, events, answers⟩ := by
  rintro ⟨err, herr⟩
  cases herr

end Entries

/-- Nothing is done by a worker that has stopped. -/
theorem OutWorker.Turn.wasRunning {w w' : OutWorker} {events : List BulkOutEvent}
    (h : OutWorker.Turn w w' events) : w.phase ≠ .stopped := by
  intro hstopped
  cases h with
  | rejected request queue err hp => exact nomatch hp.symm.trans hstopped
  | started command queue hp => exact nomatch hp.symm.trans hstopped
  | answered sender queue result hp => exact nomatch hp.symm.trans hstopped
  | shut sender queue result hp => exact nomatch hp.symm.trans hstopped
  | unlinked seqnum queue hp => exact nomatch hp.symm.trans hstopped
  | written request result hp => exact nomatch hp.symm.trans hstopped
  | flushed sender result hp => exact nomatch hp.symm.trans hstopped
  | flushedAndShut sender result hp => exact nomatch hp.symm.trans hstopped
  | idleFlushed result hp => exact nomatch hp.symm.trans hstopped

section Step

variable {w w' : OutWorker} {log : List OutEntry} {x : OutEntry}

/-- After a failure a running worker is not healthy. -/
theorem Sound.ill (hs : Sound w log) (hrun : w.phase ≠ .stopped)
    (hbroke : ∃ y ∈ log, y.Broke) : w.health ≠ none :=
  (hs.broken hbroke).resolve_right hrun

/-- While the writer is at work nothing has failed yet. -/
theorem Sound.unbroken (hs : Sound w log) {command : BulkOutCommand}
    (hb : w.phase = .busy command) : ¬ ∃ y ∈ log, y.Broke := by
  intro hbroke
  have hrun : w.phase ≠ .stopped := by
    rw [hb]
    simp
  exact hs.ill hrun hbroke (hs.busy command hb).1

/-- **What a step does to the worker it does to the log.** -/
theorem Records.sound {entry : Option OutEntry} (h : Records w w' entry)
    (hrun : w.phase ≠ .stopped) (hs : Sound w log) : Sound w' (log ++ entry.toList) := by
  cases h with
  | rejected request err hc hp hh hh' hn =>
    have hill : w'.health ≠ none := by
      rw [hh', hh]
      exact Option.some_ne_none err
    refine ⟨hs.honest.snoc (fun _ => ⟨rfl, err, rfl⟩)
      (fun hack => absurd hack not_acknowledged_of_rejected)
      (fun hrep => absurd hrep not_reportsSuccess_of_nil), fun _ => Or.inl hill,
      fun c hb => ?_, fun _ hnone => absurd hnone hill⟩
    exact absurd hb (OutWorker.not_busy_of_receiving hp c)
  -- A command that is begun records nothing; that it was begun says that the worker is healthy.
  | started hc hp hh hh' hn =>
    rw [Option.toList_none, List.append_nil]
    obtain ⟨command, hbusy, hkind⟩ := hp
    have hone : ∀ c, w'.phase = .busy c → w'.health = none ∧ ∀ seqnum, c ≠ .unlink seqnum := by
      intro c hc'
      rw [hbusy] at hc'
      cases hc'
      exact ⟨hh', hkind⟩
    exact ⟨hs.honest, fun hbroke => absurd hh (hs.ill hrun hbroke), hone,
      fun _ _ hclean => hs.clean hrun hh (hn ▸ hclean)⟩
  | written request result hb hc hp hok herr =>
    have hfirst := hs.unbroken hb
    refine ⟨hs.honest.snoc (fun hbroke => absurd hbroke hfirst) (fun hack => ?_)
      (fun hrep => absurd hrep not_reportsSuccess_of_nil), fun hbroke => ?_, fun c hbusy => ?_,
      fun hrun' hnone hclean => ?_⟩
    · cases result with
      | ok u => exact ⟨⟨request, rfl⟩, rfl⟩
      | error err => exact absurd hack not_acknowledged_of_rejected
    · rcases exists_mem_snoc.mp hbroke with hbroke | ⟨err, herr'⟩
      · exact absurd hbroke hfirst
      · left
        rw [herr err (Option.some.inj herr')]
        exact Option.some_ne_none err
    · exact absurd hbusy (OutWorker.not_busy_of_receiving hp c)
    · cases result with
      | ok u =>
        rw [hok rfl] at hclean
        cases hclean
      | error err =>
        rw [herr err rfl] at hnone
        cases hnone
  | told command sender result hcommand hc hp hok herr =>
    have hfollowed : Followed OutEntry.Acknowledged OutEntry.Flushed log →
        Followed OutEntry.Acknowledged OutEntry.Flushed
          (log ++ [⟨some command, none, [], [(sender, result)]⟩]) :=
      fun h => h.snoc not_acknowledged_of_nil
    refine ⟨hs.honest.snoc (fun hbroke => ?_) (fun hack => absurd hack not_acknowledged_of_nil)
      (fun hrep => ?_), fun hbroke => ?_, fun c hbusy => absurd hbusy (hp c),
      fun hrun' hnone hclean => ?_⟩
    · cases result with
      | ok u => exact absurd (hok rfl).1 (hs.ill hrun hbroke)
      | error err => rcases hcommand with rfl | rfl <;> exact ⟨err, rfl⟩
    · obtain ⟨sender', hmem⟩ := hrep
      rcases List.mem_singleton.mp hmem with heq
      cases heq
      obtain ⟨hhealth, hneeds, -⟩ := hok rfl
      exact hfollowed (hs.clean hrun hhealth hneeds)
    · left
      cases result with
      | ok u =>
        rcases exists_mem_snoc.mp hbroke with hbroke | hbroke
        · exact absurd (hok rfl).1 (hs.ill hrun hbroke)
        · exact absurd hbroke not_broke_of_none
      | error err => exact herr err rfl
    · cases result with
      | ok u =>
        obtain ⟨hhealth, hneeds, -⟩ := hok rfl
        exact hfollowed (hs.clean hrun hhealth hneeds)
      | error err => exact absurd hnone (herr err rfl)
  -- The one way for a success to follow an acknowledged write is through a flush.
  | flushed command sender result hcommand hb hc hp herr =>
    have hfirst := hs.unbroken hb
    have hnot : ∀ request : BulkOutRequest, some command ≠ some (.submit request) := by
      intro request heq
      rcases hcommand with rfl | rfl <;> cases heq
    have hfollowed : result = .ok () → Followed OutEntry.Acknowledged OutEntry.Flushed
        (log ++ [⟨some command, some result, [], [(sender, result)]⟩]) := by
      rintro rfl
      exact followed_snoc not_acknowledged_of_nil ⟨hnot, rfl⟩
    refine ⟨hs.honest.snoc (fun hbroke => absurd hbroke hfirst)
      (fun hack => absurd hack not_acknowledged_of_nil) (fun hrep => ?_), fun hbroke => ?_,
      fun c hbusy => absurd hbusy (hp c), fun hrun' hnone hclean => ?_⟩
    · obtain ⟨sender', hmem⟩ := hrep
      rcases List.mem_singleton.mp hmem with heq
      cases heq
      exact hfollowed rfl
    · rcases exists_mem_snoc.mp hbroke with hbroke | ⟨err, herr'⟩
      · exact absurd hbroke hfirst
      · exact herr err (Option.some.inj herr')
    · cases result with
      | ok u => exact hfollowed rfl
      | error err =>
        rcases herr err rfl with hill | hstopped
        · exact absurd hnone hill
        · exact absurd hstopped hrun'
  | unlinked seqnum hc hp hh hn =>
    refine ⟨hs.honest.snoc (fun _ => trivial) (fun hack => absurd hack not_acknowledged_of_nil)
      (fun hrep => absurd hrep not_reportsSuccess_of_nil), fun hbroke => ?_, fun c hbusy => ?_,
      fun hrun' hnone hclean => ?_⟩
    · rcases exists_mem_snoc.mp hbroke with hbroke | hbroke
      · left
        rw [hh]
        exact hs.ill hrun hbroke
      · exact absurd hbroke not_broke_of_none
    · exact absurd hbusy (OutWorker.not_busy_of_receiving hp c)
    · exact (hs.clean hrun (hh ▸ hnone) (hn ▸ hclean)).snoc not_acknowledged_of_nil
  -- Nobody is told of a failed idle flush, so it has to leave the worker ill.
  | idleFlushed result hc hp hok herr =>
    refine ⟨hs.honest.snoc (fun _ => trivial) (fun hack => absurd hack not_acknowledged_of_nil)
      (fun hrep => absurd hrep not_reportsSuccess_of_nil), fun hbroke => ?_, fun c hbusy => ?_,
      fun hrun' hnone hclean => ?_⟩
    · left
      cases result with
      | ok u =>
        rw [hok rfl]
        rcases exists_mem_snoc.mp hbroke with hbroke | ⟨err, herr'⟩
        · exact hs.ill hrun hbroke
        · cases herr'
      | error err =>
        rw [herr err rfl]
        exact Option.some_ne_none err
    · exact absurd hbusy (OutWorker.not_busy_of_receiving hp c)
    · cases result with
      | ok u => exact followed_snoc not_acknowledged_of_nil ⟨fun _ heq => (nomatch heq), rfl⟩
      | error err =>
        rw [herr err rfl] at hnone
        cases hnone

/-- The command a step settles is the first that was there. -/
theorem Records.commands {entry : Option OutEntry} (h : Records w w' entry)
    (hrun' : w'.phase ≠ .stopped) :
    w.commands = (entry.bind (·.command)).toList ++ w'.commands := by
  cases h with
  | rejected request err hc => exact hc
  | started hc => exact hc
  | written request result hb hc => exact hc
  | told command sender result hcommand hc => exact hc hrun'
  | flushed command sender result hcommand hb hc => exact hc hrun'
  | unlinked seqnum hc => exact hc
  | idleFlushed result hc => exact hc

theorem Sound.stop (hs : Sound w log) : Sound w.stop log :=
  ⟨hs.honest, fun _ => Or.inr rfl, fun _ hb => absurd hb (OutWorker.not_busy_of_stopped rfl _),
    fun hrun => absurd rfl hrun⟩

theorem Sound.push (hs : Sound w log) (command : BulkOutCommand) : Sound (w.push command) log :=
  ⟨hs.honest, hs.broken, hs.busy, hs.clean⟩

end Step

/-! ## Runs -/

namespace OutDesk

/-- The invariant of all runs. -/
structure Inv (s : OutDesk) : Prop where
  sound : Sound s.worker s.log
  inOrder : s.worker.phase ≠ .stopped → s.sent = s.settled ++ s.worker.commands

/-- Whoever waits for a command takes it, and whoever waits for the writer takes its answer. -/
theorem Inv.goesOn {s : OutDesk} (h : s.Inv) (hrun : s.worker.phase ≠ .stopped)
    (hne : s.worker.commands ≠ []) :
    ∃ move : Except String Unit → OutMove, ∀ result, ∃ t,
      s.step (.move (move result)) = some t := by
  have hstep : ∀ {move : OutMove} {r}, s.worker.step move = some r →
      ∃ t, s.step (.move move) = some t := by
    intro move r hr
    obtain ⟨w, events⟩ := r
    dsimp only [OutDesk.step]
    rw [hr]
    exact ⟨_, rfl⟩
  cases hp : s.worker.phase with
  | stopped => exact absurd hp hrun
  | receiving =>
    rw [OutWorker.commands_of_receiving hp] at hne
    obtain ⟨command, queue, hq⟩ := List.exists_cons_of_ne_nil hne
    have htake : s.worker.step .command =
        some (OutWorker.receive { s.worker with queue := queue } command) := by
      dsimp only [OutWorker.step]
      rw [hp, hq]
    exact ⟨fun _ => .command, fun result => hstep htake⟩
  | busy command =>
    have hkind := (h.sound.busy command hp).2
    refine ⟨.io, fun result => ?_⟩
    have hresume : ∃ r, s.worker.step (.io result) = some r := by
      dsimp only [OutWorker.step, OutWorker.resume]
      rw [hp]
      cases command with
      | submit request => exact ⟨_, rfl⟩
      | flush sender => exact ⟨_, rfl⟩
      | shutdown sender => exact ⟨_, rfl⟩
      | unlink seqnum => exact absurd rfl (hkind seqnum)
    obtain ⟨r, hr⟩ := hresume
    exact hstep hr

theorem Inv.honest {s : OutDesk} (h : s.Inv) : s.Honest :=
  ⟨h.sound.honest, h.inOrder, h.goesOn⟩

theorem start_inv (address : UInt8) : (start address).Inv where
  sound :=
    { honest := ⟨ruled_nil, fun _ hx => (nomatch hx), ruled_nil⟩
      broken := fun ⟨_, hx, _⟩ => nomatch hx
      busy := fun _ hb => nomatch hb
      clean := fun _ _ _ => followed_nil }
  inOrder := fun _ => rfl

theorem settled_append (s : OutDesk) (w : OutWorker) (entry : Option OutEntry) :
    settled { s with worker := w, log := s.log ++ entry.toList } =
      s.settled ++ (entry.bind (·.command)).toList := by
  unfold settled
  rw [List.filterMap_append]
  congr 1
  cases entry with
  | none => rfl
  | some x =>
    obtain ⟨command, io, events, answers⟩ := x
    cases command <;> rfl

/-- **Every step keeps the invariant.** -/
theorem Inv.step {s t : OutDesk} {a : OutAction} (hs : s.Inv) (h : s.step a = some t) :
    t.Inv := by
  cases a with
  | send command =>
    dsimp only [OutDesk.step] at h
    split at h
    · cases h
    · split at h
      · rename_i w hw
        cases h
        -- Only a worker that runs is sent anything.
        have hpush : w = s.worker.push command ∧ s.worker.phase ≠ .stopped := by
          unfold OutWorker.send at hw
          split at hw
          · cases hw
          · split at hw
            · cases hw
              exact ⟨rfl, ‹_›⟩
            · cases hw
        obtain ⟨rfl, hrun⟩ := hpush
        refine ⟨hs.sound.push command, fun _ => ?_⟩
        show s.sent ++ [command] = s.settled ++ (s.worker.push command).commands
        rw [OutWorker.commands_push, hs.inOrder hrun, List.append_assoc]
      · cases h
  | close =>
    cases h
    exact ⟨hs.sound, hs.inOrder⟩
  | hangUp =>
    cases h
    exact ⟨hs.sound, hs.inOrder⟩
  | move move =>
    dsimp only [OutDesk.step] at h
    split at h
    · cases h
    · rename_i w events hw
      cases h
      -- Whatever the worker does is in the records, which are sound one by one.
      have hrun := (OutWorker.step_turn hw).wasRunning
      have hrecords := OutWorker.step_records hw
      have hsound := hrecords.sound hrun hs.sound
      constructor
      · dsimp only
        split
        · exact hsound.stop
        · exact hsound
      · intro hrun'
        rw [settled_append]
        dsimp only at hrun' ⊢
        split at hrun'
        · exact absurd rfl hrun'
        · rename_i hdeaf
          rw [if_neg hdeaf, hs.inOrder hrun, hrecords.commands hrun', List.append_assoc]
  | finish result =>
    dsimp only [OutDesk.step] at h
    split at h
    · rename_i hend
      have hrun : s.worker.phase ≠ .stopped := by
        rw [hend.2.1]
        simp
      split at h
      · cases h
        refine ⟨?_, fun hrun' => absurd rfl hrun'⟩
        have hhonest := hs.sound.honest.snoc (x := ⟨none, some result, [], []⟩)
          (fun _ => trivial) (fun hack => absurd hack not_acknowledged_of_nil)
          (fun hrep => absurd hrep not_reportsSuccess_of_nil)
        exact ⟨hhonest, fun _ => Or.inr rfl,
          fun _ hb => absurd hb (OutWorker.not_busy_of_stopped rfl _),
          fun hrun' => absurd rfl hrun'⟩
      · cases h
        exact ⟨hs.sound.stop, fun hrun' => absurd rfl hrun'⟩
    · cases h

end OutDesk

/-- **OUT failures are sticky and never silent.** For every sequence of commands to a bulk-OUT
    worker, and every pattern of failures of its writer: after a failed write or flush every
    `Submit` is answered with a failure and nothing is written for it, and every `Flush` and
    `Shutdown` reports an error; and whoever is told that a flush has succeeded finds every
    acknowledged write flushed. -/
theorem bulkOut_honest (address : UInt8) (actions : List OutAction) :
    Throughout OutDesk.step OutDesk.Honest (OutDesk.start address) actions :=
  throughout_of_step (fun _ _ _ hs h => hs.step h) (fun _ hs => hs.honest) actions
    (OutDesk.start_inv address)

end Lusbip
