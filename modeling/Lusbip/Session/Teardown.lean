import Lusbip.Session.Ledger
import Lusbip.Session.Outcomes

/-!
# The end of a session

`handler` gives a device back when the client closes the connection, when a command cannot
be read, and before each import. There `stop_bulk_in_workers` and `stop_bulk_out_workers`
run first: the OUT workers are asked to flush and to end, and every task is awaited. But a
reply that cannot be written leaves `handler` through `?`. Its locals are dropped, which
asks the tasks in the two `JoinSet`s to abort, and the task around `handler` releases the
device without waiting for any of them.

`ConnectionTask` is that task: the connection, how far the end has come, and what is left of
a session each time that its device is released. `owed` follows the bytes: the URBs whose
bytes have been taken by a writer since a flush of it was last tried.
-/

namespace Lusbip

open Lib.Transition

namespace OutWorker

variable {w w' : OutWorker}

/-- The next command asks for a flush. -/
def asksFlush (w : OutWorker) : Bool := (w.queue.head?.bind BulkOutCommand.reply?).isSome

/-- Taking the next command begins a flush. -/
def startsFlush (w : OutWorker) : Bool :=
  w.phase = .receiving ∧ w.asksFlush = true ∧ w.health = none ∧ w.needsFlush = true

/-- A flush is asked for while bytes wait, and not tried, since the writer has failed. -/
def Refuses (w : OutWorker) : OutMove → Prop
  | .command => w.phase = .receiving ∧ w.asksFlush = true ∧ w.health ≠ none ∧ w.needsFlush = true
  | _ => False

instance (w : OutWorker) : ∀ move : OutMove, Decidable (w.Refuses move)
  | .command => inferInstanceAs (Decidable (_ ∧ _ ∧ _ ∧ _))
  | .io _ | .idleFlush _ => isFalse id

/-- Nothing waits for a flush that has not begun. -/
def settled (w : OutWorker) : Bool :=
  match w.phase with
  | .stopped | .busy (.flush _) | .busy (.shutdown _) => true
  | _ => !w.needsFlush

/-- The URBs that wait for a flush to be tried, after a step of the worker. -/
def owedBy (w : OutWorker) (owed : List Urb) : OutMove → List Urb
  | .command => if w.startsFlush then [] else owed
  | .idleFlush _ => []
  | .io (.error _) => owed
  | .io (.ok ()) =>
      match w.phase with
      | .busy (.submit request) => owed ++ [request.urb]
      | _ => owed

theorem settled_of_receiving (hp : w.phase = .receiving) : w.settled = !w.needsFlush := by
  simp only [settled, hp]

/-- **What waits is known to the worker**, as long as it refuses no flush. -/
theorem owedBy_unsettled {owed : List Urb} {move : OutMove} {events : List BulkOutEvent}
    (h : owed ≠ [] → w.settled = false) (hr : ¬ w.Refuses move)
    (hs : w.step move = some (w', events)) (ho : w.owedBy owed move ≠ []) :
    w'.settled = false := by
  cases move with
  | idleFlush result => exact absurd rfl ho
  | io result =>
    unfold step resume at hs
    dsimp only at hs
    split at hs
    · rename_i request hp
      cases hs
      cases result with
      | ok u => rfl
      | error err =>
        have hw : w.settled = !w.needsFlush := by simp only [settled, hp]
        exact hw.symm.trans (h ho)
    · rename_i sender hp
      have hw : w.settled = true := by simp only [settled, hp]
      have hnil : owed ≠ [] := by
        cases result <;> simpa only [owedBy, hp] using ho
      rw [hw] at h
      cases h hnil
    · rename_i sender hp
      have hw : w.settled = true := by simp only [settled, hp]
      have hnil : owed ≠ [] := by
        cases result <;> simpa only [owedBy, hp] using ho
      rw [hw] at h
      cases h hnil
    · cases hs
  | command =>
    unfold step at hs
    dsimp only at hs
    split at hs
    · rename_i command queue hp hq
      replace ho : (if w.startsFlush then [] else owed) ≠ [] := ho
      have hne : owed ≠ [] := by
        split at ho
        · exact absurd rfl ho
        · exact ho
      have hflush : w.needsFlush = true := by
        have := h hne
        rw [settled_of_receiving hp] at this
        simpa using this
      have hstart : ¬ w.startsFlush = true := by
        intro hstart
        rw [if_pos hstart] at ho
        exact ho rfl
      -- A flush is neither begun nor refused, so none is asked for.
      have hask : w.asksFlush = false := by
        by_contra hask
        rw [Bool.not_eq_false] at hask
        by_cases hh : w.health = none
        · exact hstart (decide_eq_true ⟨hp, hask, hh, hflush⟩)
        · exact hr ⟨hp, hask, hh, hflush⟩
      rw [asksFlush, hq] at hask
      cases command with
      | submit request =>
        unfold receive at hs
        dsimp only at hs
        split at hs
        · cases hs
          simp only [settled, hp, hflush, Bool.not_true]
        · cases hs
          simp only [settled, hflush, Bool.not_true]
      | unlink seqnum =>
        cases hs
        simp only [settled, hp, hflush, Bool.not_true]
      | flush sender => cases hask
      | shutdown sender => cases hask
    · cases hs

end OutWorker

/-! ## The task of a connection -/

/-- What is left of a session when its device goes back to the pool. -/
structure Remains where
  ins : UInt8 → Option InWorker
  outs : UInt8 → Option OutWorker
  owed : UInt8 → List Urb
  wire : List Reply

/-- The client has been told that the bytes of the URB are taken. -/
def Acknowledged (wire : List Reply) (urb : Urb) : Prop :=
  ∃ n source response, .submit n urb source response ∈ wire ∧ response.submitStatus? = some 0

/-- No task of the session is left, and no byte that was acknowledged but never flushed. -/
structure Remains.Quiet (r : Remains) : Prop where
  ins : ∀ ep w, r.ins ep = some w → w.phase = .stopped
  outs : ∀ ep w, r.outs ep = some w → w.phase = .stopped
  owed : ∀ ep, ∀ urb ∈ r.owed ep, ¬ Acknowledged r.wire urb

/-- How far the end of a connection has come. -/
inductive Stage where
  | serving
  /-- The read of a command has failed, and the workers are being stopped. -/
  | closing
  /-- `handler` has returned through `?`: the tasks are asked to abort. -/
  | returned
  | ended
  deriving DecidableEq, Repr

/-- The steps of the workers. -/
def Action.ofWorker : Action → Bool
  | .inFlush _ | .inBarrier _ | .inOpened _ _ | .inCommand _ | .inCompletion _ _
  | .outMove _ _ => true
  | _ => false

def Action.ofStop : Action → Bool
  | .shutdownSent _ => true
  | _ => false

/-- Who still takes steps. An aborted task may be in the middle of one. -/
def Stage.allows : Stage → Action → Bool
  | .serving, _ => true
  | .closing, a => a.ofWorker || a.ofStop
  | .returned, a => a.ofWorker
  | .ended, _ => false

structure ConnectionTask where
  conn : Connection := {}
  stage : Stage := .serving
  /-- The URBs whose bytes wait for a flush of their endpoint to be tried. -/
  owed : UInt8 → List Urb := fun _ => []
  releases : List Remains := []

inductive TaskAction where
  | run (a : Action)
  /-- The handler takes a step, and cannot write its reply. -/
  | writeFails (a : Action)
  /-- The same for `OP_REQ_DEVLIST`, which changes nothing. -/
  | devlistFails
  /-- The end of the stream, or a command that cannot be read. -/
  | readFails
  /-- `stop_bulk_out_workers` is through, and the device is released. -/
  | closed
  /-- An aborted task is gone. -/
  | inAborted (endpoint : UInt8)
  | outAborted (endpoint : UInt8)
  /-- The task around `handler` releases the device. -/
  | release

namespace ConnectionTask

/-- `abort_all`, and `join_next` until there is no OUT worker any more. -/
def joined (c : Connection) : Connection := { c with outs := fun _ => none }

/-- `server.release(dev)`, if there is a device. -/
def released (k : ConnectionTask) (c : Connection) : List Remains :=
  match k.conn.device with
  | none => k.releases
  | some _ => k.releases ++ [⟨c.ins, c.outs, k.owed, c.wire⟩]

/-- An import releases the device before it, when the workers have been stopped. -/
def releasesAfter (k : ConnectionTask) : Action → List Remains
  | .importDone _ => k.released (joined k.conn)
  | _ => k.releases

def owedAfter (c : Connection) (owed : UInt8 → List Urb) : Action → UInt8 → List Urb
  | .outMove endpoint move =>
      match c.outs endpoint with
      | some w => Function.update owed endpoint (w.owedBy (owed endpoint) move)
      | none => owed
  | .importDone _ => fun _ => []
  | _ => owed

/-- The connection after a step whose reply is not written. The workers of a new device are
    started only after the reply to the import. -/
def unanswered (old new : Connection) : Action → Connection
  | .importDone _ => { new with wire := old.wire, ins := fun _ => none, outs := fun _ => none }
  | _ => { new with wire := old.wire }

/-- The read arm of `handler` begins to stop the workers. -/
def stopping (c : Connection) : Connection :=
  { c with ins := fun _ => none, phase := .importing c.outEndpoints }

def step (prof : Profile) (k : ConnectionTask) : TaskAction → Option ConnectionTask
  | .run a =>
      if k.stage.allows a then
        (k.conn.step prof a).map fun c =>
          { k with
            conn := c
            owed := owedAfter k.conn k.owed a
            releases := k.releasesAfter a }
      else none
  | .writeFails a =>
      if k.stage = .serving then
        (k.conn.step prof a).bind fun c =>
          if c.wire = k.conn.wire then none
          else some
            { k with
              conn := unanswered k.conn c a
              stage := .returned
              owed := owedAfter k.conn k.owed a
              releases := k.releasesAfter a }
      else none
  | .devlistFails =>
      match k.stage, k.conn.phase with
      | .serving, .select => some { k with stage := .returned }
      | _, _ => none
  | .readFails =>
      match k.stage, k.conn.phase with
      | .serving, .select => some { k with conn := stopping k.conn, stage := .closing }
      | _, _ => none
  | .closed =>
      match k.stage, k.conn.phase with
      | .closing, .importing [] =>
          some
            { k with
              conn := { joined k.conn with device := none }
              stage := .ended
              owed := fun _ => []
              releases := k.released (joined k.conn) }
      | _, _ => none
  | .inAborted endpoint =>
      if k.stage = .returned then
        some { k with conn := { k.conn with ins := Function.update k.conn.ins endpoint none } }
      else none
  | .outAborted endpoint =>
      if k.stage = .returned then
        some { k with conn := { k.conn with outs := Function.update k.conn.outs endpoint none } }
      else none
  | .release =>
      if k.stage = .returned then
        some
          { k with
            conn := { k.conn with device := none }
            stage := .ended
            releases := k.released k.conn }
      else none

/-! ## Orderly ends -/

/-- No bytes wait at an OUT worker, but for a flush under way. -/
def AllSettled (c : Connection) : Prop := ∀ ep, ∀ w ∈ c.outs ep, w.settled = true

/-- No task of the session is running. -/
def AllEnded (c : Connection) : Prop :=
  (∀ ep, ∀ w ∈ c.ins ep, w.phase = .stopped) ∧ ∀ ep, ∀ w ∈ c.outs ep, w.phase = .stopped

/-- A flush is not refused while bytes wait, the OUT workers have flushed when the time to
    stop them is over, and a write fails only when no worker is running. -/
def Orderly (k : ConnectionTask) : TaskAction → Prop
  | .run (.outMove endpoint move) => ∀ w ∈ k.conn.outs endpoint, ¬ w.Refuses move
  | .run (.importDone _) | .writeFails (.importDone _) | .closed => AllSettled k.conn
  | .writeFails _ | .devlistFails => AllEnded k.conn
  | _ => True

/-- A condition on all endpoint addresses is looked up address by address. -/
def decidableForallAddress {p : UInt8 → Prop} (h : ∀ ep, Decidable (p ep)) :
    Decidable (∀ ep, p ep) :=
  decidable_of_iff (∀ i : Fin 256, p (UInt8.ofFin i)) ⟨fun h ep => h ep.toFin, fun h _ => h _⟩

instance (c : Connection) : Decidable (AllSettled c) :=
  decidableForallAddress fun ep =>
    inferInstanceAs (Decidable (∀ w ∈ c.outs ep, w.settled = true))

instance (c : Connection) : Decidable (AllEnded c) :=
  have : Decidable (∀ ep, ∀ w ∈ c.ins ep, w.phase = .stopped) :=
    decidableForallAddress fun ep =>
      inferInstanceAs (Decidable (∀ w ∈ c.ins ep, w.phase = .stopped))
  have : Decidable (∀ ep, ∀ w ∈ c.outs ep, w.phase = .stopped) :=
    decidableForallAddress fun ep =>
      inferInstanceAs (Decidable (∀ w ∈ c.outs ep, w.phase = .stopped))
  inferInstanceAs (Decidable (_ ∧ _))

instance (k : ConnectionTask) : ∀ b : TaskAction, Decidable (Orderly k b)
  | .run (.outMove endpoint move) =>
      inferInstanceAs (Decidable (∀ w ∈ k.conn.outs endpoint, ¬ w.Refuses move))
  | .run (.importDone _) | .writeFails (.importDone _) | .closed =>
      inferInstanceAs (Decidable (AllSettled k.conn))
  | .writeFails (.submit _) | .writeFails (.unlink _ _) | .writeFails .importRequest
  | .writeFails (.shutdownSent _) | .writeFails .deliverIn | .writeFails .deliverOut
  | .writeFails (.controlFlush _) | .writeFails .controlResult | .writeFails (.execute _)
  | .writeFails (.inFlush _) | .writeFails (.inBarrier _) | .writeFails (.inOpened _ _)
  | .writeFails (.inCommand _) | .writeFails (.inCompletion _ _) | .writeFails (.outMove _ _)
  | .devlistFails => inferInstanceAs (Decidable (AllEnded k.conn))
  | .run (.submit _) | .run (.unlink _ _) | .run .importRequest | .run (.shutdownSent _)
  | .run .deliverIn | .run .deliverOut | .run (.controlFlush _) | .run .controlResult
  | .run (.execute _) | .run (.inFlush _) | .run (.inBarrier _) | .run (.inOpened _ _)
  | .run (.inCommand _) | .run (.inCompletion _ _) | .readFails | .inAborted _
  | .outAborted _ | .release => isTrue trivial

/-- Every device was released when its session was quiet. -/
def Released (k : ConnectionTask) : Prop := ∀ r ∈ k.releases, r.Quiet

/-! ## The invariant -/

structure Tidy (k : ConnectionTask) : Prop where
  releases : k.Released
  /-- What waits is known to a worker. -/
  owed : ∀ ep, k.owed ep ≠ [] → ∃ w, k.conn.outs ep = some w ∧ w.settled = false
  running : k.stage = .serving → k.conn.Running
  aborted : k.stage = .serving → k.conn.Aborted
  closing : k.stage = .closing → ∀ ep, k.conn.ins ep = none
  returned : k.stage = .returned →
    (∀ ep w, k.conn.ins ep = some w → w.phase = .stopped) ∧ ∀ ep, k.conn.outs ep = none

theorem tidy_init : Tidy {} :=
  ⟨fun _ h => (nomatch h), fun _ h => absurd rfl h, fun _ => Connection.running_init,
    fun _ _ _ _ => rfl, fun h => (nomatch h), fun h => (nomatch h)⟩

variable {prof : Profile} {k k' : ConnectionTask} {c : Connection} {a : Action}

/-- The release of a device whose session is quiet. -/
theorem Tidy.released (h : Tidy k) (hi : ∀ ep w, c.ins ep = some w → w.phase = .stopped)
    (ho : ∀ ep w, c.outs ep = some w → w.phase = .stopped) (hw : ∀ ep, k.owed ep = []) :
    ∀ r ∈ k.released c, r.Quiet := by
  intro r hr
  unfold ConnectionTask.released at hr
  split at hr
  · exact h.releases r hr
  · rcases List.mem_append.mp hr with hr | hr
    · exact h.releases r hr
    · rw [List.mem_singleton.mp hr]
      refine ⟨hi, ho, fun ep urb hu => ?_⟩
      replace hu : urb ∈ k.owed ep := hu
      rw [hw ep] at hu
      cases hu

theorem Tidy.nothing_owed (h : Tidy k) (hs : AllSettled k.conn) (ep : UInt8) :
    k.owed ep = [] := by
  by_contra hne
  obtain ⟨w, hw, hsettled⟩ := h.owed ep hne
  exact absurd ((hs ep w hw).symm.trans hsettled) (by simp)

/-- A command that a worker is told changes nothing about what waits there. -/
theorem owed_of_told {outs outs' : UInt8 → Option OutWorker} {endpoint : UInt8}
    {command : BulkOutCommand} {owed : UInt8 → List Urb}
    (ht : Connection.ToldOut outs endpoint command outs')
    (h : ∀ ep, owed ep ≠ [] → ∃ w, outs ep = some w ∧ w.settled = false) :
    ∀ ep, owed ep ≠ [] → ∃ w, outs' ep = some w ∧ w.settled = false := by
  rcases ht with rfl | ⟨v, hv, rfl⟩
  · exact h
  · intro ep hne
    obtain ⟨w, hw, hsettled⟩ := h ep hne
    by_cases hep : ep = endpoint
    · subst hep
      rw [hv, Option.some.injEq] at hw
      subst hw
      exact ⟨_, Function.update_self .., hsettled⟩
    · exact ⟨w, by rw [Function.update_of_ne hep, hw], hsettled⟩

theorem owed_of_outs {outs outs' : UInt8 → Option OutWorker} {owed : UInt8 → List Urb}
    (ho : outs' = outs) (h : ∀ ep, owed ep ≠ [] → ∃ w, outs ep = some w ∧ w.settled = false) :
    ∀ ep, owed ep ≠ [] → ∃ w, outs' ep = some w ∧ w.settled = false := ho ▸ h

/-- What waits stays known to the workers, in every step that ends no session. -/
theorem owed_step {owed : UInt8 → List Urb} {c' : Connection}
    (h : ∀ ep, owed ep ≠ [] → ∃ w, c.outs ep = some w ∧ w.settled = false)
    (he : Connection.Effect prof c a c') (hno : ∀ outcome, a ≠ .importDone outcome)
    (hr : ∀ endpoint move, a = .outMove endpoint move →
      ∀ w ∈ c.outs endpoint, ¬ w.Refuses move) :
    ∀ ep, owedAfter c owed a ep ≠ [] → ∃ w, c'.outs ep = some w ∧ w.settled = false := by
  cases he with
  | submitOut command w hp hw hd hdir => exact owed_of_told (Connection.toldOut_push hw _) h
  | unlinkOut header seqnum endpoint outs hp hseq htold => exact owed_of_told htold h
  | shutdownSent endpoint remaining outs hp htold => exact owed_of_told htold h
  | importDone outcome hp => exact absurd rfl (hno outcome)
  | deliverIn event rest hp he =>
    exact owed_of_outs (Connection.deliverIn_outs c event rest).1 h
  | deliverOut event rest hp he =>
    exact owed_of_outs (Connection.deliverOut_frame c event rest).2.1 h
  | controlFlush command urb remaining endpoint w hp hw =>
    exact owed_of_told (Connection.toldOut_push hw _) h
  | controlFailed a command urb remaining awaiting endpoint err hp ha =>
    rcases ha with rfl | rfl <;> exact h
  | execute host command urb device hp hd =>
    exact owed_of_outs (Connection.execute_frame prof c command urb device host).2.1 h
  | inFlush endpoint w out o seqnum len hw ho hout hwp =>
    exact owed_of_told (Connection.toldOut_push hout _) h
  | inMove endpoint move w w' events hw hs hf hb => cases move <;> exact h
  | outMove endpoint move w w' events hw hs =>
    -- A worker that goes on owing after its move is not settled by it.
    have howed : owedAfter c owed (.outMove endpoint move) =
        Function.update owed endpoint (w.owedBy (owed endpoint) move) := by
      simp only [owedAfter, hw]
    rw [howed]
    intro ep hne
    by_cases hep : ep = endpoint
    · subst hep
      rw [Function.update_self] at hne
      refine ⟨w', Function.update_self .., ?_⟩
      refine OutWorker.owedBy_unsettled (fun hne => ?_) (hr ep move rfl w hw) hs hne
      obtain ⟨v, hv, hsettled⟩ := h ep hne
      rw [hw, Option.some.injEq] at hv
      exact hv ▸ hsettled
    · rw [Function.update_of_ne hep] at hne
      obtain ⟨v, hv, hsettled⟩ := h ep hne
      exact ⟨v, (Function.update_of_ne hep ..).trans hv, hsettled⟩
  | _ => exact h

/-- The device before an import is released with every worker stopped and flushed. -/
theorem Tidy.import_quiet (h : Tidy k) (hs : k.stage = .serving) (hsettled : AllSettled k.conn)
    (hp : k.conn.phase = .importing []) : ∀ r ∈ k.released (joined k.conn), r.Quiet := by
  refine h.released (fun ep w hw => ?_) (fun ep w hw => nomatch hw) (h.nothing_owed hsettled)
  exact nomatch (h.aborted hs [] hp ep).symm.trans hw

/-- A step of the connection while `handler` runs. -/
theorem Tidy.serve (h : Tidy k) (hs : k.stage = .serving) (ho : Orderly k (.run a))
    (he : Connection.Effect prof k.conn a c) :
    Tidy { k with
      conn := c
      owed := owedAfter k.conn k.owed a
      releases := k.releasesAfter a } where
  releases := by
    cases a with
    | importDone outcome => exact h.import_quiet hs ho (he.importDone_eq rfl).2
    | _ => exact h.releases
  owed := by
    by_cases hno : ∀ outcome, a ≠ .importDone outcome
    · refine owed_step h.owed he hno ?_
      rintro endpoint move rfl
      exact ho
    · simp only [not_forall, not_not] at hno
      obtain ⟨outcome, rfl⟩ := hno
      exact fun _ hne => absurd rfl hne
  running _ := (h.running hs).step he
  aborted _ := (h.aborted hs).step he
  closing hc := nomatch hs.symm.trans hc
  returned hr := nomatch hs.symm.trans hr

/-! ## A reply that cannot be written -/

/-- A step that replies is taken in a session, and leaves the workers what they were. -/
theorem ended_of_reply {c' : Connection} (he : Connection.Effect prof c a c')
    (hno : ∀ outcome, a ≠ .importDone outcome) (hw : c'.wire ≠ c.wire) :
    c.InSession ∧
      (∀ ep w, c'.ins ep = some w → ∃ v, c.ins ep = some v ∧ w.phase = v.phase) ∧
      ∀ ep w, c'.outs ep = some w → ∃ v, c.outs ep = some v := by
  -- A reply that is written leaves the OUT workers where they are and ends no IN worker.
  have hins : ∀ ep w, c.ins ep = some w → ∃ v, c.ins ep = some v ∧ w.phase = v.phase :=
    fun ep w h => ⟨w, h, rfl⟩
  have houts : ∀ ep w, c.outs ep = some w → ∃ v, c.outs ep = some v := fun ep w h => ⟨w, h⟩
  cases he with
  | unlinkIn header seqnum endpoint ins hp hseq htold =>
    refine ⟨Connection.inSession_select hp, fun ep w h => ?_, houts⟩
    rcases htold with rfl | ⟨v, hv, rfl⟩
    · exact hins ep w h
    · exact Connection.forall_update_some (P := fun e w => ∃ v, c.ins e = some v ∧ w.phase = v.phase)
        (fun e w _ h => hins e w h) ⟨v, hv, rfl⟩ ep w h
  | unlinkOut header seqnum endpoint outs hp hseq htold =>
    refine ⟨Connection.inSession_select hp, hins, fun ep w h => ?_⟩
    obtain ⟨v, hv, -⟩ := htold.pushed ep w h
    exact ⟨v, hv⟩
  | unlinkUnknown header seqnum hp => exact ⟨Connection.inSession_select hp, hins, houts⟩
  | importDone outcome hp => exact absurd rfl (hno outcome)
  | deliverIn event rest hp he =>
    refine ⟨Connection.inSession_select hp, ?_, ?_⟩
    · rw [(Connection.deliverIn_frame c event rest).2.1]
      exact hins
    · rw [(Connection.deliverIn_outs c event rest).1]
      exact houts
  | deliverOut event rest hp he =>
    refine ⟨Connection.inSession_select hp, ?_, ?_⟩
    · rw [(Connection.deliverOut_ins c event rest).1]
      exact hins
    · rw [(Connection.deliverOut_frame c event rest).2.1]
      exact houts
  | controlFailed a command urb remaining awaiting endpoint err hp ha =>
    exact ⟨Connection.inSession_serving hp, hins, houts⟩
  | execute host command urb device hp hd =>
    obtain ⟨hi, ho, -⟩ := Connection.execute_frame prof c command urb device host
    refine ⟨Connection.inSession_serving hp, ?_, ?_⟩
    · rw [hi]
      exact hins
    · rw [ho]
      exact houts
  | _ => exact absurd rfl hw

theorem owedAfter_of_none {owed : UInt8 → List Urb} (ho : ∀ ep, c.outs ep = none)
    (hn : ∀ ep, owed ep = []) (a : Action) (ep : UInt8) : owedAfter c owed a ep = [] := by
  cases a with
  | outMove endpoint move =>
    simp only [owedAfter, ho endpoint]
    exact hn ep
  | importDone outcome => rfl
  | _ => exact hn ep

/-- Where no worker runs, in a session, there is no OUT worker, and nothing waits. -/
theorem Tidy.ended (h : Tidy k) (hs : k.stage = .serving) (hi : k.conn.InSession)
    (he : AllEnded k.conn) : (∀ ep, k.conn.outs ep = none) ∧ ∀ ep, k.owed ep = [] := by
  have houts : ∀ ep, k.conn.outs ep = none := by
    intro ep
    cases hw : k.conn.outs ep with
    | none => rfl
    | some w => exact absurd (he.2 ep w hw) (h.running hs hi ep w hw).phase
  refine ⟨houts, fun ep => ?_⟩
  by_contra hne
  obtain ⟨w, hw, -⟩ := h.owed ep hne
  exact nomatch (houts ep).symm.trans hw

theorem Tidy.writeFails (h : Tidy k) (hs : k.stage = .serving)
    (ho : Orderly k (.writeFails a)) (he : Connection.Effect prof k.conn a c)
    (hw : c.wire ≠ k.conn.wire) :
    Tidy { k with
      conn := unanswered k.conn c a
      stage := .returned
      owed := owedAfter k.conn k.owed a
      releases := k.releasesAfter a } := by
  by_cases hno : ∀ outcome, a ≠ .importDone outcome
  -- Within a session the order asks that all workers have ended before a reply fails.
  · have hends : AllEnded k.conn := by
      cases a with
      | importDone outcome => exact absurd rfl (hno outcome)
      | _ => exact ho
    have hreleases : k.releasesAfter a = k.releases := by
      cases a with
      | importDone outcome => exact absurd rfl (hno outcome)
      | _ => rfl
    have hconn : unanswered k.conn c a = { c with wire := k.conn.wire } := by
      cases a with
      | importDone outcome => exact absurd rfl (hno outcome)
      | _ => rfl
    obtain ⟨hin, hins, houts⟩ := ended_of_reply he hno hw
    obtain ⟨hnone, hnothing⟩ := h.ended hs hin hends
    refine ⟨?_, fun ep hne => ?_, fun h => (nomatch h), fun h => (nomatch h),
      fun h => (nomatch h), fun _ => ⟨fun ep w hw' => ?_, fun ep => ?_⟩⟩
    · rw [Released, hreleases]
      exact h.releases
    · exact absurd (owedAfter_of_none hnone hnothing a ep) hne
    · rw [hconn] at hw'
      obtain ⟨v, hv, hphase⟩ := hins ep w hw'
      exact hphase.trans (hends.1 ep v hv)
    · rw [hconn]
      cases hw' : c.outs ep with
      | none => rfl
      | some w =>
        obtain ⟨v, hv⟩ := houts ep w hw'
        exact nomatch (hnone ep).symm.trans hv
  · simp only [not_forall, not_not] at hno
    -- The reply to an import fails before any worker has been started.
    obtain ⟨outcome, rfl⟩ := hno
    refine ⟨h.import_quiet hs ho (he.importDone_eq rfl).2, fun ep hne => absurd rfl hne,
      fun h => (nomatch h), fun h => (nomatch h), fun h => (nomatch h), fun _ => ?_⟩
    exact ⟨fun ep w hw => (nomatch hw), fun ep => rfl⟩

/-! ## The other ends -/

/-- The workers go on while they are being stopped. -/
theorem Tidy.close (h : Tidy k) (hs : k.stage = .closing) (ho : Orderly k (.run a))
    (ha : Stage.closing.allows a = true) (he : Connection.Effect prof k.conn a c) :
    Tidy { k with
      conn := c
      owed := owedAfter k.conn k.owed a
      releases := k.releasesAfter a } := by
  have hno : ∀ outcome, a ≠ .importDone outcome := by
    rintro outcome rfl
    cases ha
  have hins : ∀ ep, c.ins ep = none := by
    have hnone := h.closing hs
    cases he with
    | shutdownSent endpoint remaining outs hp htold => exact hnone
    | inFlush endpoint w out o seqnum len hw ho hout hwp =>
      exact nomatch (hnone endpoint).symm.trans hw
    | inMove endpoint move w w' events hw hst hf hb =>
      exact nomatch (hnone endpoint).symm.trans hw
    | outMove endpoint move w w' events hw hst => exact hnone
    | controlFailed a command urb remaining awaiting endpoint err hp ha' => exact hnone
    | _ => cases ha
  refine ⟨?_, ?_, fun hc => (nomatch hs.symm.trans hc), fun hc => (nomatch hs.symm.trans hc),
    fun _ => hins, fun hr => (nomatch hs.symm.trans hr)⟩
  · cases a with
    | importDone outcome => cases ha
    | _ => exact h.releases
  · refine owed_step h.owed he hno ?_
    rintro endpoint move rfl
    exact ho

/-- No worker is left to take a step. -/
theorem Tidy.no_worker (h : Tidy k) (hs : k.stage = .returned)
    (ha : Stage.returned.allows a = true) (he : Connection.Effect prof k.conn a c) : False := by
  obtain ⟨hins, houts⟩ := h.returned hs
  cases he with
  | inFlush endpoint w out o seqnum len hw ho hout hwp =>
    exact nomatch (houts out).symm.trans hout
  | inMove endpoint move w w' events hw hst hf hb =>
    rw [InWorker.step_of_stopped (hins endpoint w hw)] at hst
    cases hst
  | outMove endpoint move w w' events hw hst => exact nomatch (houts endpoint).symm.trans hw
  | controlFailed a command urb remaining awaiting endpoint err hp ha' =>
    rcases ha' with rfl | rfl <;> cases ha
  | _ => cases ha

theorem Tidy.step (h : Tidy k) {b : TaskAction} (ho : Orderly k b)
    (hs : step prof k b = some k') : Tidy k' := by
  cases b with
  | run a =>
    unfold ConnectionTask.step at hs
    dsimp only at hs
    split at hs
    · rename_i ha
      obtain ⟨c, hc, rfl⟩ := Option.map_eq_some_iff.mp hs
      have he := Connection.step_effect hc
      -- What the connection does depends on how far its teardown has come.
      cases hstage : k.stage with
      | serving => exact hstage ▸ h.serve hstage ho he
      | closing =>
        rw [hstage] at ha
        exact hstage ▸ h.close hstage ho ha he
      | returned =>
        rw [hstage] at ha
        exact (h.no_worker hstage ha he).elim
      | ended =>
        rw [hstage] at ha
        cases ha
    · cases hs
  | writeFails a =>
    unfold ConnectionTask.step at hs
    dsimp only at hs
    split at hs
    · rename_i hstage
      obtain ⟨c, hc, hs⟩ := Option.bind_eq_some_iff.mp hs
      split at hs
      · cases hs
      · rename_i hw
        cases hs
        exact h.writeFails hstage ho (Connection.step_effect hc) hw
    · cases hs
  | devlistFails =>
    unfold ConnectionTask.step at hs
    dsimp only at hs
    split at hs
    · rename_i hstage hp
      cases hs
      -- A devlist that fails leaves by `?`, and nothing is left behind.
      obtain ⟨hnone, hnothing⟩ := h.ended hstage (Connection.inSession_select hp) ho
      refine ⟨h.releases, fun ep hne => absurd (hnothing ep) hne, fun h => (nomatch h),
        fun h => (nomatch h), fun h => (nomatch h), fun _ => ⟨ho.1, hnone⟩⟩
    · cases hs
  | readFails =>
    unfold ConnectionTask.step at hs
    dsimp only at hs
    split at hs
    · rename_i hstage hp
      cases hs
      exact ⟨h.releases, h.owed, fun h => (nomatch h), fun h => (nomatch h), fun _ _ => rfl,
        fun h => (nomatch h)⟩
    · cases hs
  | closed =>
    unfold ConnectionTask.step at hs
    dsimp only at hs
    split at hs
    · rename_i hstage hp
      cases hs
      -- The teardown has waited for every worker, so the device goes back with nothing owed.
      refine ⟨h.released (fun ep w hw => ?_) (fun ep w hw => nomatch hw) (h.nothing_owed ho),
        fun ep hne => absurd rfl hne, fun h => (nomatch h), fun h => (nomatch h),
        fun h => (nomatch h), fun h => (nomatch h)⟩
      exact nomatch (h.closing hstage ep).symm.trans hw
    · cases hs
  | inAborted endpoint =>
    unfold ConnectionTask.step at hs
    dsimp only at hs
    split at hs
    · rename_i hstage
      cases hs
      obtain ⟨hins, houts⟩ := h.returned hstage
      refine ⟨h.releases, h.owed, fun hc => (nomatch hstage.symm.trans hc),
        fun hc => (nomatch hstage.symm.trans hc), fun hc => (nomatch hstage.symm.trans hc),
        fun _ => ⟨fun ep w hw => ?_, houts⟩⟩
      replace hw : Function.update k.conn.ins endpoint none ep = some w := hw
      by_cases hep : ep = endpoint
      · subst hep
        rw [Function.update_self] at hw
        cases hw
      · rw [Function.update_of_ne hep] at hw
        exact hins ep w hw
    · cases hs
  | outAborted endpoint =>
    unfold ConnectionTask.step at hs
    dsimp only at hs
    split at hs
    · rename_i hstage
      cases hs
      obtain ⟨hins, houts⟩ := h.returned hstage
      -- There is no OUT worker left to abort.
      have hsame : Function.update k.conn.outs endpoint none = k.conn.outs := by
        rw [← houts endpoint, Function.update_eq_self]
      rw [hsame]
      exact h
    · cases hs
  | release =>
    unfold ConnectionTask.step at hs
    dsimp only at hs
    split at hs
    · rename_i hstage
      cases hs
      obtain ⟨hins, houts⟩ := h.returned hstage
      have hnothing : ∀ ep, k.owed ep = [] := by
        intro ep
        by_contra hne
        obtain ⟨w, hw, -⟩ := h.owed ep hne
        exact nomatch (houts ep).symm.trans hw
      refine ⟨h.released hins (fun ep w hw => ?_) hnothing, h.owed, fun h => (nomatch h),
        fun h => (nomatch h), fun h => (nomatch h), fun h => (nomatch h)⟩
      exact nomatch (houts ep).symm.trans hw
    · cases hs

/-- **Devices are released by quiet sessions** in every run whose ends are orderly, whatever
    the workers do in between. -/
theorem released_of_orderly (prof : Profile) (acts : List TaskAction)
    (h : Along (step prof) Orderly {} acts) : Throughout (step prof) Released {} acts :=
  throughout_of_along (fun _ _ _ h ho hs => Tidy.step h ho hs) (fun _ h => h.releases)
    tidy_init h

/-- A client writes, imports again, writes, and goes away: each session ends quietly. -/
theorem writeImportWriteAndClose_released :
    Throughout (step .release) Released {} (
      (Connection.attach ++ [Connection.submitWrite 1, .outMove 1 .command,
        .outMove 1 (.io (.ok ())), .deliverOut, .importRequest, .shutdownSent 1,
        .outMove 1 .command, .outMove 1 (.io (.ok ())),
        .importDone (.succeeded Connection.serialPort fun _ => true),
        Connection.submitWrite 2, .outMove 1 .command, .outMove 1 (.io (.ok ())),
        .deliverOut]).map .run ++
      [.readFails, .run (.shutdownSent 1), .run (.outMove 1 .command),
        .run (.outMove 1 (.io (.error "timed out"))), .closed]) :=
  released_of_orderly .release _ (by decide +kernel)

/-- **A reply that cannot be written leaves the workers running** when the device is
    released: `handler` returns past its two stop functions. -/
theorem devlistFails_not_released :
    ¬ ∀ prof acts, Throughout (step prof) Released {} acts := by
  intro h
  have hrun : (run (step .release) {} (Connection.attach.map .run ++
      [.devlistFails, .release])).any
        (fun k => k.releases.any fun r => (r.ins 0x81).any fun w => w.phase ≠ .stopped) =
        true := by decide +kernel
  obtain ⟨k, hk, hleft⟩ := (Option.any_eq_true _ _).mp hrun
  obtain ⟨r, hr, hleft⟩ := List.any_eq_true.mp hleft
  obtain ⟨w, hw, hrunning⟩ := (Option.any_eq_true _ _).mp hleft
  have hquiet := (h .release _).of_run hk r hr
  exact of_decide_eq_true hrunning (hquiet.ins 0x81 w hw)

end ConnectionTask
end Lusbip
