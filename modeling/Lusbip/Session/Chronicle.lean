import Mathlib.Data.List.Nodup
import Lusbip.Lib.Transition
import Lusbip.Session.Effect

/-!
# The chronicle of a connection

A connection keeps neither the commands it has dispatched nor the bytes it has given to the
writers of the OUT endpoints. What is said about the data of URBs needs both. A `Chronicle`
writes them down as the connection goes on, and leaves the connection as it is.

A write that fails may have taken a part of its bytes: `write_all` can fail, or run into its
timeout, after any number of them. How many is up to the environment; `torn` is its choice.
-/

namespace Lusbip

open Lib.Transition

/-- The bytes that a step of an OUT worker hands to its writer. -/
def OutWorker.handedBy (torn : Urb → Nat) (w : OutWorker) (move : OutMove) : List UInt8 :=
  match w.phase, move with
  | .busy (.submit request), .io (.ok ()) => request.data
  | .busy (.submit request), .io (.error _) => request.data.take (torn request.urb)
  | _, _ => []

structure Chronicle where
  conn : Connection := {}
  /-- The URBs dispatched, with their commands. -/
  submits : List (Urb × SubmitCommand) := []
  /-- The bytes handed to the writer of an OUT endpoint in the session. -/
  handed : UInt8 → List UInt8 := fun _ => []

namespace Chronicle

/-- The URB that an action dispatches; without a device the command is passed over. -/
def dispatchedBy (c : Connection) : Action → List (Urb × SubmitCommand)
  | .submit command =>
      match c.device with
      | none => []
      | some _ => [(c.urbOf command, command)]
  | _ => []

/-- What the writers have been handed after an action. An import leaves none of them. -/
def handedAfter (torn : Urb → Nat) (s : Chronicle) : Action → UInt8 → List UInt8
  | .outMove endpoint move =>
      match s.conn.outs endpoint with
      | some w =>
          Function.update s.handed endpoint (s.handed endpoint ++ w.handedBy torn move)
      | none => s.handed
  | .importDone _ => fun _ => []
  | _ => s.handed

def step (prof : Profile) (torn : Urb → Nat) (s : Chronicle) (a : Action) : Option Chronicle :=
  (s.conn.step prof a).map fun c =>
    { conn := c
      submits := s.submits ++ dispatchedBy s.conn a
      handed := s.handedAfter torn a }

variable {prof : Profile} {torn : Urb → Nat} {s t : Chronicle} {a : Action}

theorem step_eq_some (h : step prof torn s a = some t) :
    Connection.Effect prof s.conn a t.conn ∧ t.submits = s.submits ++ dispatchedBy s.conn a ∧
      t.handed = s.handedAfter torn a := by
  obtain ⟨c, hc, rfl⟩ := Option.map_eq_some_iff.mp h
  exact ⟨Connection.step_effect hc, rfl, rfl⟩

/-- The URBs dispatched to an endpoint in the session, with their payloads. -/
def sent (s : Chronicle) (endpoint : UInt8) : List (Urb × List UInt8) :=
  (s.submits.filter fun p => p.1.session = s.conn.session ∧ p.1.ep = endpoint).map
    fun p => (p.1, p.2.data)

/-! ## The URBs of a chronicle -/

/-- URBs are numbered in the order of their commands, and belong to the session in which they
    were dispatched. -/
structure Dated (s : Chronicle) : Prop where
  order : s.submits.Pairwise fun p q => p.1.index < q.1.index
  index : ∀ p ∈ s.submits, p.1.index < s.conn.clock
  session : ∀ p ∈ s.submits, p.1.session ≤ s.conn.session

theorem dated_init : Dated {} :=
  ⟨List.Pairwise.nil, fun _ h => (nomatch h), fun _ h => (nomatch h)⟩

/-- A URB stands for one command. -/
theorem Dated.unique (h : Dated s) {urb : Urb} {command command' : SubmitCommand}
    (hm : (urb, command) ∈ s.submits) (hm' : (urb, command') ∈ s.submits) :
    command = command' := by
  have hnodup : (s.submits.map Prod.fst).Nodup := by
    refine List.pairwise_map.mpr (h.order.imp fun hlt heq => ?_)
    rw [heq] at hlt
    exact Nat.lt_irrefl _ hlt
  exact congrArg Prod.snd (List.inj_on_of_nodup_map hnodup hm hm' rfl)

theorem Dated.step (h : Dated s) (ht : step prof torn s a = some t) : Dated t := by
  obtain ⟨he, hsub, -⟩ := step_eq_some ht
  obtain ⟨hclock, hsession⟩ := he.mono
  -- A URB that is submitted now is dated by the clock, which then goes on.
  have hnew : ∀ p ∈ dispatchedBy s.conn a,
      p.1.index = s.conn.clock ∧ s.conn.clock < t.conn.clock ∧
        p.1.session = s.conn.session := by
    intro p hp
    cases a with
    | submit command =>
      unfold dispatchedBy at hp
      dsimp only at hp
      split at hp
      · cases hp
      · rw [List.mem_singleton.mp hp]
        exact ⟨rfl, by rw [he.submit_clock rfl]; exact Nat.lt_succ_self _, rfl⟩
    | _ => cases hp
  refine ⟨?_, ?_, ?_⟩
  · rw [hsub]
    refine List.pairwise_append.mpr ⟨h.order, ?_, fun p hp q hq => ?_⟩
    · unfold dispatchedBy
      split
      · split
        · exact List.Pairwise.nil
        · exact List.pairwise_singleton _ _
      · exact List.Pairwise.nil
    · rw [(hnew q hq).1]
      exact h.index p hp
  · intro p hp
    rw [hsub] at hp
    rcases List.mem_append.mp hp with hp | hp
    · exact (h.index p hp).trans_le hclock
    · rw [(hnew p hp).1]
      exact (hnew p hp).2.1
  · intro p hp
    rw [hsub] at hp
    rcases List.mem_append.mp hp with hp | hp
    · exact (h.session p hp).trans hsession
    · rw [(hnew p hp).2.2]
      exact hsession

end Chronicle
end Lusbip
