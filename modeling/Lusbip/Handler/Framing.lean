import Mathlib.Data.List.Infix
import Lusbip.Lib.Transition
import Lusbip.Usb.Protocol

/-!
# The read branch of the handler's loop

`handler` polls `UsbIpCommand::read_from_socket` as one branch of a `select!` whose other
branches deliver the completions of the bulk workers. The future of the read branch is made
anew in every round, and a round that another branch wins drops it, together with the bytes
its reads have taken. A command that arrives in one piece never notices; a command that is
still incomplete when an event is delivered loses its first bytes, and everything behind it
is read from the wrong place.

The state below is the loop as far as framing is concerned. `taken` and `lost` are kept for
the statements only: what the current future has consumed, and what dropped ones had.

The loop also ends when a reply cannot be written or a dispatch panics. These ends are left
out: such a connection is one of the runs below broken off, and what a run says of every
prefix it says of it.
-/

namespace Lusbip
namespace Framing

open Lib Lib.Transition

structure State where
  /-- The read future of the current round, as far as it has got. -/
  future : Reader (Outcome UsbIpCommand)
  taken : List UInt8 := []
  lost : List UInt8 := []
  /-- Bytes that have arrived and that no read has taken. -/
  socket : List UInt8 := []
  arrived : List UInt8 := []
  closed : Bool := false
  dispatched : List UsbIpCommand := []
  returned : Option Stop := none

inductive Action where
  /-- The client's next segment arrives. -/
  | segment (bytes : List UInt8)
  /-- The client shuts its side down. -/
  | shutdown
  /-- The read branch is polled. -/
  | poll
  /-- One of the event branches wins the round. -/
  | event
  deriving DecidableEq

def unexpectedEof : Stop := .err (.new .unexpectedEof "early eof")

/-- The read branch, polled once: it dispatches a command, fails, or waits for more. -/
def poll (prof : Profile) (s : State) : State :=
  let (future, rest) := s.future.feed s.socket
  match future.returned? with
  | some (.ok command) =>
      { s with
        dispatched := s.dispatched ++ [command]
        future := readFromSocket prof
        taken := []
        socket := rest }
  | some (.error stop) => { s with returned := some stop }
  | none =>
      if s.closed then { s with returned := some unexpectedEof }
      else { s with future := future, taken := s.taken ++ s.socket, socket := [] }

/-- A round that an event branch wins: the future is dropped, and the next round starts
    from the first field of a command. -/
def deliverEvent (prof : Profile) (s : State) : State :=
  { s with
    lost := s.lost ++ s.taken
    future := readFromSocket prof
    taken := [] }

def step (prof : Profile) (s : State) : Action → Option State
  | .segment bytes =>
      if s.closed then none
      else some { s with socket := s.socket ++ bytes, arrived := s.arrived ++ bytes }
  | .shutdown => some { s with closed := true }
  | .poll => if s.returned = none then some (poll prof s) else none
  | .event => if s.returned = none then some (deliverEvent prof s) else none

def init (prof : Profile) : State where
  future := readFromSocket prof

/-- The commands of a stream that is read from its first byte. -/
def commandsOf (prof : Profile) (stream : List UInt8) : List UsbIpCommand :=
  (Reader.frames (readFromSocket prof) stream).1

/-- The loop has nothing left to do until more bytes arrive. -/
def State.AtRest (s : State) : Prop := s.returned ≠ none ∨ s.socket = []

instance (s : State) : Decidable s.AtRest :=
  inferInstanceAs (Decidable (s.returned ≠ none ∨ s.socket = []))

/-- **The commands dispatched are those of the stream**: no byte is lost, none is
    dispatched out of place, and none that is complete is missing once the loop rests. -/
structure Framed (prof : Profile) (s : State) : Prop where
  lost : s.lost = []
  dispatched_prefix : s.dispatched <+: commandsOf prof s.arrived
  dispatched_eq : s.AtRest → s.dispatched = commandsOf prof s.arrived

/-! ## One read -/

theorem readFromSocket_consumes (prof : Profile) : (readFromSocket prof).Consumes :=
  Reader.consumes_exact (by decide) _

/-! ## The invariant

Whatever arrives after `arrived`, the commands of the whole stream are those dispatched so
far and then those of the bytes the current future has taken or may take. -/

structure Inv (prof : Profile) (s : State) : Prop where
  lost : s.lost = []
  future : s.future = ((readFromSocket prof).feed s.taken).1
  pending : s.future.returned? = none
  stream : ∀ later, commandsOf prof (s.arrived ++ later)
    = s.dispatched ++ commandsOf prof (s.taken ++ s.socket ++ later)
  returned : s.returned ≠ none → ∀ later, (s.closed = true → later = []) →
    commandsOf prof (s.taken ++ s.socket ++ later) = []

variable {prof : Profile} {s t : State}

theorem inv_init : Inv prof (init prof) where
  lost := rfl
  future := rfl
  pending := rfl
  stream _ := rfl
  returned h := absurd rfl h

/-- What a poll makes of the socket, in terms of the whole unread stream. -/
theorem Inv.feed (h : Inv prof s) (bytes : List UInt8) :
    (readFromSocket prof).feed (s.taken ++ bytes) = s.future.feed bytes := by
  have hrest : ((readFromSocket prof).feed s.taken).2 = [] :=
    Reader.feed_snd_of_pending (h.future ▸ h.pending)
  rw [Reader.feed_append, hrest, List.nil_append, ← h.future]

theorem Inv.poll (h : Inv prof s) (hs : s.returned = none) : Inv prof (poll prof s) := by
  -- The future goes on where it is; what it makes of `taken` and the socket is one read.
  have hfeed := h.feed s.socket
  unfold Framing.poll
  cases hf : s.future.feed s.socket with
  | mk future rest =>
    rw [hf] at hfeed
    dsimp only
    cases hr : future.returned? with
    -- The frame is incomplete: at the end of the stream this is the last read.
    | none =>
      have hnone : (readFromSocket prof).read (s.taken ++ s.socket) = none := by
        rw [Reader.read_eq_none, hfeed]
        exact hr
      by_cases hc : s.closed = true
      · rw [if_pos hc]
        refine { h with returned := fun _ later hlater => ?_ }
        rw [hlater hc, List.append_nil]
        exact congrArg Prod.fst (Reader.frames_of_none hnone)
      · rw [if_neg hc]
        exact
          { lost := h.lost
            future := (congrArg Prod.fst hfeed).symm
            pending := hr
            stream := fun later => by
              rw [h.stream later, List.append_nil]
            returned := fun hne => absurd hs hne }
    | some result =>
      cases result with
      | error stop =>
        have herr : (readFromSocket prof).read (s.taken ++ s.socket) = some (.error stop, rest) := by
          rw [Reader.read_eq_some, hfeed]
          exact ⟨hr, rfl⟩
        refine { h with returned := fun _ later _ => ?_ }
        exact congrArg Prod.fst (Reader.frames_of_error (Reader.read_append_of_some herr later))
      -- A command is read off the stream, and the next future starts behind it.
      | ok command =>
        have hok : (readFromSocket prof).read (s.taken ++ s.socket) = some (.ok command, rest) := by
          rw [Reader.read_eq_some, hfeed]
          exact ⟨hr, rfl⟩
        exact
          { lost := h.lost
            future := rfl
            pending := rfl
            stream := fun later => by
              have hcons := Reader.frames_of_ok (readFromSocket_consumes prof)
                (Reader.read_append_of_some hok later)
              rw [h.stream later, commandsOf, hcons, List.append_assoc]
              rfl
            returned := fun hne => absurd hs hne }

/-- Every step keeps the invariant, an event on condition that the read future it drops has
    not taken anything. -/
theorem Inv.step {a : Action} (h : Inv prof s) (ha : a = .event → s.taken = [])
    (hstep : step prof s a = some t) : Inv prof t := by
  unfold Framing.step at hstep
  cases a with
  | segment bytes =>
    dsimp only at hstep
    split at hstep
    · cases hstep
    · rename_i hclosed
      cases hstep
      refine { h with stream := fun later => ?_, returned := fun hr later _ => ?_ }
      · rw [List.append_assoc, h.stream, List.append_assoc, List.append_assoc,
          List.append_assoc]
      · have := h.returned hr (bytes ++ later) fun hc => absurd hc hclosed
        rwa [← List.append_assoc, List.append_assoc s.taken] at this
  | shutdown =>
    cases hstep
    refine { h with returned := fun hr later hlater => ?_ }
    rw [hlater rfl]
    exact h.returned hr [] fun _ => rfl
  | poll =>
    dsimp only at hstep
    split at hstep
    · rename_i hs
      cases hstep
      exact h.poll hs
    · cases hstep
  -- The future is dropped, which does no harm as long as it has taken nothing.
  | event =>
    have htaken := ha rfl
    dsimp only at hstep
    split at hstep
    · rename_i hs
      cases hstep
      have hlost : s.lost ++ s.taken = [] := by rw [h.lost, htaken, List.append_nil]
      refine ⟨hlost, rfl, rfl, fun later => ?_, fun hr => absurd hs hr⟩
      show commandsOf prof (s.arrived ++ later) =
        s.dispatched ++ commandsOf prof (s.socket ++ later)
      rw [h.stream later, htaken, List.nil_append]
    · cases hstep

theorem Inv.framed (h : Inv prof s) : Framed prof s := by
  have hstream := h.stream []
  rw [List.append_nil, List.append_nil] at hstream
  refine ⟨h.lost, ?_, ?_⟩
  · rw [hstream]
    exact List.prefix_append _ _
  · intro hrest
    suffices commandsOf prof (s.taken ++ s.socket) = [] by
      rw [hstream, this, List.append_nil]
    rcases hrest with hr | hsocket
    · have := h.returned hr [] fun _ => rfl
      rwa [List.append_nil] at this
    · rw [hsocket, List.append_nil]
      refine congrArg Prod.fst (Reader.frames_of_none ?_)
      rw [Reader.read_eq_none, ← h.future]
      exact h.pending

/-- **When the loop frames commands right.** In a run, every state has the commands of the
    stream dispatched and no byte lost if and only if no event is delivered while the read
    future has taken a part of a command. -/
theorem framed_iff_no_event_inside_command (prof : Profile) (acts : List Action) :
    Throughout (step prof) (Framed prof) (init prof) acts ↔
      Along (step prof) (fun s a => a = .event → s.taken = []) (init prof) acts := by
  refine throughout_iff_along (I := Inv prof) (fun s a t h ha hstep => h.step ha hstep)
    (fun s h => h.framed) (fun s a t h hstep hq ha => ?_) inv_init
  subst ha
  unfold step at hstep
  dsimp only at hstep
  split at hstep
  · cases hstep
    have hlost : s.lost ++ s.taken = [] := hq.lost
    rw [h.lost, List.nil_append] at hlost
    exact hlost
  · cases hstep

/-! ## A command that loses its head -/

/-- The commands of a client that imports a device, submits a bulk-IN URB and unlinks it. -/
def importSubmitUnlink : List UsbIpCommand :=
  [.opReqImport 0 (0x31 :: 0x2D :: 0x31 :: List.replicate 29 0),
   .usbIpCmdSubmit ⟨1, 1, 0, 1, 1⟩ 0 64 0 0 0 (List.replicate 8 0) [] [],
   .usbIpCmdUnlink ⟨2, 2, 0, 0, 0⟩ 1]

/-- The client's bytes, with the last 20 of the unlink in a segment of their own, and the
    completion of the submitted URB delivered before they arrive. -/
def completionInsideUnlink : List Action :=
  let stream := importSubmitUnlink.flatMap UsbIpCommand.toBytes
  [.segment (stream.take 116), .poll, .poll, .poll, .event, .segment (stream.drop 116), .poll]

/-- **Framing depends on worker events**: the loop comes to rest with the unlink undispatched,
    having given up on the connection, although the stream is three complete commands. -/
theorem completionInsideUnlink_not_framed :
    ¬ Throughout (step .release) (Framed .release) (init .release) completionInsideUnlink ∧
      ∃ t, run (step .release) (init .release) completionInsideUnlink = some t ∧ t.AtRest ∧
        t.dispatched = importSubmitUnlink.take 2 ∧
        commandsOf .release t.arrived = importSubmitUnlink := by
  have hrun : ((run (step .release) (init .release) completionInsideUnlink).any fun t =>
      t.AtRest ∧ t.dispatched = importSubmitUnlink.take 2 ∧
        commandsOf .release t.arrived = importSubmitUnlink) = true := by decide +kernel
  obtain ⟨t, ht, hend⟩ := (Option.any_eq_true _ _).mp hrun
  obtain ⟨hrest, hdispatched, hstream⟩ := of_decide_eq_true hend
  refine ⟨fun hframed => ?_, t, ht, hrest, hdispatched, hstream⟩
  have heq := (hframed.of_run ht).dispatched_eq hrest
  rw [hdispatched, hstream] at heq
  exact absurd heq (by decide)

end Framing
end Lusbip
