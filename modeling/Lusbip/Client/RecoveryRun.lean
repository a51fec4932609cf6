import Lusbip.Client.Recovery

/-!
# How far the recovery comes

The recovery goes through the ports of the kernel's status file in their order. Each of them it
detaches through `usbip`, and where that fails, through the kernel's file, which takes the plain
number; where both fail it ends. So it comes to a port if every port before it could be detached
one way or the other.
-/

namespace Lusbip
namespace Client

open Lib
open Lib.Fields
open Lib.Program

variable {env : Environment} {n : Nat} {port number : Text} {ports : List Text}
  {es fs : List (Event Call.Answer)}

/-! ## The ports of the kernel -/

/-- The kernel's port of a number, which may be written with a leading zero. -/
def vhciPort (number : Text) : Text :=
  match normalizedVhciPort number with
  | .ok plain => plain
  | .error _ => number

/-- A plain number stands for itself. -/
theorem vhciPort_of_normalized {plain : Text} (h : normalizedVhciPort number = .ok plain) :
    vhciPort number = plain ∧ vhciPort plain = plain := by
  have hnumber : vhciPort number = plain := by rw [vhciPort, h]
  refine ⟨hnumber, ?_⟩
  unfold normalizedVhciPort at h
  split at h
  · next k hk =>
    obtain rfl := Except.ok.inj h
    rw [vhciPort, normalizedVhciPort, parseUnsigned_decimal (lt_of_parseUnsigned hk)]
  · cases h

/-- A detach of the port is tried. -/
def Tried (es : List (Event Call.Answer)) (number : Text) : Prop :=
  ∃ e ∈ es, ∃ named, vhciPort named = vhciPort number ∧ e.1.Detaches named

/-- The call is to detach the port, and it works. -/
def DetachedBy (e : Event Call.Answer) (named : Text) : Prop :=
  (∃ answer, e = ⟨detachCall named, answer⟩ ∧ isOk (readDetach named answer) = true) ∨
    ∃ answer, e = ⟨directDetachCall named, answer⟩ ∧ isOk (readDirectDetach named answer) = true

/-- A detach of the port works. -/
def Detached (es : List (Event Call.Answer)) (number : Text) : Prop :=
  ∃ e ∈ es, ∃ named, vhciPort named = vhciPort number ∧ DetachedBy e named

theorem tried_append : Tried (es ++ fs) number ↔ Tried es number ∨ Tried fs number := by
  simp only [Tried, List.mem_append, or_and_right, exists_or]

theorem detached_append : Detached (es ++ fs) number ↔ Detached es number ∨ Detached fs number := by
  simp only [Detached, List.mem_append, or_and_right, exists_or]

theorem not_tried_nil : ¬ Tried [] number := by
  rintro ⟨e, he, -⟩
  cases he

/-- What works has been tried. -/
theorem Detached.tried (h : Detached es number) : Tried es number := by
  obtain ⟨e, he, named, hnamed, hdetached⟩ := h
  refine ⟨e, he, named, hnamed, ?_⟩
  rcases hdetached with ⟨answer, rfl, -⟩ | ⟨answer, rfl, -⟩
  · exact Or.inl rfl
  · exact Or.inr rfl

theorem not_tried_of_noDetach (h : NoDetach es) : ¬ Tried es number := by
  rintro ⟨e, he, named, -, hdetach⟩
  exact h e he named hdetach

theorem tried_detachCall {answer : (detachCall port).Answer} :
    Tried [⟨detachCall port, answer⟩] number ↔ vhciPort port = vhciPort number := by
  constructor
  · rintro ⟨e, he, named, hnamed, hdetach⟩
    rw [List.mem_singleton.mp he] at hdetach
    rw [eq_of_detaches_detachCall hdetach]
    exact hnamed
  · exact fun h => ⟨_, List.mem_singleton_self _, port, h, detaches_detachCall port⟩

theorem tried_directDetachCall {answer : (directDetachCall port).Answer} :
    Tried [⟨directDetachCall port, answer⟩] number ↔ vhciPort port = vhciPort number := by
  constructor
  · rintro ⟨e, he, named, hnamed, hdetach⟩
    rw [List.mem_singleton.mp he] at hdetach
    rw [eq_of_detaches_directDetachCall hdetach]
    exact hnamed
  · exact fun h => ⟨_, List.mem_singleton_self _, port, h, Or.inr rfl⟩

theorem detached_detachCall {answer : (detachCall port).Answer} :
    Detached [⟨detachCall port, answer⟩] number ↔
      isOk (readDetach port answer) = true ∧ vhciPort port = vhciPort number := by
  constructor
  · rintro ⟨e, he, named, hnamed, ⟨answer', heq, hok⟩ | ⟨answer', heq, -⟩⟩
    · obtain rfl := List.mem_singleton.mp he
      obtain rfl := detachCall_inj (congrArg Sigma.fst heq)
      cases heq
      exact ⟨hok, hnamed⟩
    · obtain rfl := List.mem_singleton.mp he
      cases congrArg Sigma.fst heq
  · rintro ⟨hok, hport⟩
    exact ⟨_, List.mem_singleton_self _, port, hport, Or.inl ⟨answer, rfl, hok⟩⟩

theorem detached_directDetachCall {answer : (directDetachCall port).Answer} :
    Detached [⟨directDetachCall port, answer⟩] number ↔
      isOk (readDirectDetach port answer) = true ∧ vhciPort port = vhciPort number := by
  constructor
  · rintro ⟨e, he, named, hnamed, ⟨answer', heq, -⟩ | ⟨answer', heq, hok⟩⟩
    · obtain rfl := List.mem_singleton.mp he
      cases congrArg Sigma.fst heq
    · obtain rfl := List.mem_singleton.mp he
      obtain rfl := directDetachCall_inj (congrArg Sigma.fst heq)
      cases heq
      exact ⟨hok, hnamed⟩
  · rintro ⟨hok, hport⟩
    exact ⟨_, List.mem_singleton_self _, port, hport, Or.inr ⟨answer, rfl, hok⟩⟩

/-! ## One port of the status file -/

/-- The call number `n` is to detach the port through `usbip`, and it works. -/
def DetachSucceeds (env : Environment) (n : Nat) (number : Text) : Prop :=
  isOk (readDetach number (env n (detachCall number))) = true

/-- The call number `n` is to detach the port through the kernel's file, and it works. -/
def DirectSucceeds (env : Environment) (n : Nat) (plain : Text) : Prop :=
  isOk (readDirectDetach plain (env n (directDetachCall plain))) = true

instance (env : Environment) (n : Nat) (number : Text) : Decidable (DetachSucceeds env n number) :=
  inferInstanceAs (Decidable (_ = _))

instance (env : Environment) (n : Nat) (plain : Text) : Decidable (DirectSucceeds env n plain) :=
  inferInstanceAs (Decidable (_ = _))

/-- How many calls it takes to detach the port, if it can be detached: one through `usbip`, or a
    second one through the kernel's file. -/
def callsToDetach (env : Environment) (n : Nat) (port : Text) : Option Nat :=
  if DetachSucceeds env n port then some 1
  else
    match normalizedVhciPort port with
    | .ok plain => if DirectSucceeds env (n + 1) plain then some 2 else none
    | .error _ => none

/-- The calls of the recovery for one port. -/
def round (env : Environment) (n : Nat) (port : Text) : List (Event Call.Answer) :=
  if DetachSucceeds env n port then [⟨detachCall port, env n (detachCall port)⟩]
  else
    match normalizedVhciPort port with
    | .ok plain =>
        [⟨detachCall port, env n (detachCall port)⟩,
          ⟨directDetachCall plain, env (n + 1) (directDetachCall plain)⟩]
    | .error _ => [⟨detachCall port, env n (detachCall port)⟩]

/-- What the recovery does about the ports behind the first. -/
def eventsAfter (env : Environment) (n : Nat) (port : Text) (ports : List Text) :
    List (Event Call.Answer) :=
  match callsToDetach env n port with
  | some calls => events env (n + calls) (detachEach ports)
  | none => []

theorem readDetach_of_succeeds (h : DetachSucceeds env n port) :
    readDetach port (env n (detachCall port)) = .ok () := by
  cases hread : readDetach port (env n (detachCall port)) with
  | ok u => rfl
  | error err =>
    rw [DetachSucceeds, hread] at h
    cases h

theorem readDetach_of_fails (h : ¬ DetachSucceeds env n port) :
    ∃ err, readDetach port (env n (detachCall port)) = .error err := by
  cases hread : readDetach port (env n (detachCall port)) with
  | error err => exact ⟨err, rfl⟩
  | ok u =>
    refine absurd ?_ h
    rw [DetachSucceeds, hread]
    rfl

/-- What follows the write into the kernel's file. -/
theorem events_directDetach {plain : Text} (k : Except Text Unit → Command (Except Text Unit)) :
    events env n ((ask (directDetachCall plain) (readDirectDetach plain)).bind k)
      = ⟨directDetachCall plain, env n (directDetachCall plain)⟩
        :: events env (n + 1) (k (readDirectDetach plain (env n (directDetachCall plain)))) := rfl

/-- **The recovery goes port by port**, and to the next one only when the port is free. -/
theorem events_detachEach_cons (env : Environment) (n : Nat) (port : Text) (ports : List Text) :
    events env n (detachEach (port :: ports)) = round env n port ++ eventsAfter env n port ports := by
  have hfirst : events env n (detachPort port) = [⟨detachCall port, env n (detachCall port)⟩] := rfl
  have hresult : result env n (detachPort port) = readDetach port (env n (detachCall port)) := rfl
  rw [detachEach, events_bind, hfirst, hresult, round, eventsAfter, callsToDetach]
  by_cases hsucceeds : DetachSucceeds env n port
  · rw [if_pos hsucceeds, if_pos hsucceeds, readDetach_of_succeeds hsucceeds]
    rfl
  · obtain ⟨err, hread⟩ := readDetach_of_fails hsucceeds
    rw [if_neg hsucceeds, if_neg hsucceeds, hread]
    dsimp only
    rw [directVhciDetachQuiet]
    cases normalizedVhciPort port with
    | error err' => rfl
    | ok plain =>
      dsimp only
      rw [Program.andThen, List.length_singleton, events_directDetach]
      cases hdirect : readDirectDetach plain (env (n + 1) (directDetachCall plain)) with
      | ok u =>
        have hworks : DirectSucceeds env (n + 1) plain := by rw [DirectSucceeds, hdirect]; rfl
        rw [if_pos hworks]
        rfl
      | error err' =>
        have hfails : ¬ DirectSucceeds env (n + 1) plain := by
          rw [DirectSucceeds, hdirect]
          exact Bool.false_ne_true
        rw [if_neg hfails]
        rfl

theorem tried_round : Tried (round env n port) number ↔ vhciPort port = vhciPort number := by
  unfold round
  split
  · exact tried_detachCall
  · cases hplain : normalizedVhciPort port with
    | error err => exact tried_detachCall
    | ok plain =>
      obtain ⟨hport, hself⟩ := vhciPort_of_normalized hplain
      dsimp only
      rw [← List.singleton_append, tried_append, tried_detachCall, tried_directDetachCall, hport,
        hself, or_self]

theorem detached_round :
    Detached (round env n port) number ↔
      callsToDetach env n port ≠ none ∧ vhciPort port = vhciPort number := by
  unfold round callsToDetach
  by_cases hsucceeds : DetachSucceeds env n port
  · rw [if_pos hsucceeds, if_pos hsucceeds, detached_detachCall]
    exact and_congr_left fun _ => iff_of_true hsucceeds (Option.some_ne_none 1)
  · have hnot : ¬ Detached [⟨detachCall port, env n (detachCall port)⟩] number :=
      fun h => hsucceeds (detached_detachCall.mp h).1
    rw [if_neg hsucceeds, if_neg hsucceeds]
    cases hplain : normalizedVhciPort port with
    | error err => exact iff_of_false hnot fun h => h.1 rfl
    | ok plain =>
      obtain ⟨hport, hself⟩ := vhciPort_of_normalized hplain
      dsimp only
      rw [← List.singleton_append, detached_append, or_iff_right hnot, detached_directDetachCall, hport,
        hself]
      refine and_congr_left fun _ => ?_
      split
      · next hworks => exact iff_of_true hworks (Option.some_ne_none 2)
      · next hfails => exact iff_of_false hfails fun h => h rfl

/-! ## The whole status file -/

/-- The recovery comes to the port: every port before it can be detached. -/
def ComesTo (env : Environment) (number : Text) : Nat → List Text → Prop
  | _, [] => False
  | n, port :: ports =>
      vhciPort port = vhciPort number ∨
        ∃ calls ∈ callsToDetach env n port, ComesTo env number (n + calls) ports

/-- The recovery comes to the port, and can detach it. -/
def GetsDetached (env : Environment) (number : Text) : Nat → List Text → Prop
  | _, [] => False
  | n, port :: ports =>
      ∃ calls ∈ callsToDetach env n port,
        vhciPort port = vhciPort number ∨ GetsDetached env number (n + calls) ports

/-- What is done about the ports behind the first is done once the first is free. -/
theorem eventsAfter_iff (P : List (Event Call.Answer) → Prop) {Q : Nat → Prop} (hnil : ¬ P [])
    (h : ∀ m, P (events env m (detachEach ports)) ↔ Q m) :
    P (eventsAfter env n port ports) ↔ ∃ calls ∈ callsToDetach env n port, Q (n + calls) := by
  unfold eventsAfter
  cases callsToDetach env n port with
  | none =>
    refine iff_of_false hnil ?_
    rintro ⟨calls, hcalls, -⟩
    cases hcalls
  | some calls =>
    rw [h]
    constructor
    · exact fun hq => ⟨calls, rfl, hq⟩
    · rintro ⟨calls', hcalls, hq⟩
      cases hcalls
      exact hq

theorem tried_detachEach_iff :
    Tried (events env n (detachEach ports)) number ↔ ComesTo env number n ports := by
  induction ports generalizing n with
  | nil => exact iff_of_false not_tried_nil id
  | cons port ports ih =>
    rw [events_detachEach_cons, tried_append, tried_round, ComesTo]
    exact or_congr_right (eventsAfter_iff (Tried · number) not_tried_nil fun m => ih)

theorem detached_detachEach_iff :
    Detached (events env n (detachEach ports)) number ↔ GetsDetached env number n ports := by
  have hnil : ¬ Detached [] number := fun h => not_tried_nil h.tried
  induction ports generalizing n with
  | nil => exact iff_of_false hnil id
  | cons port ports ih =>
    rw [events_detachEach_cons, detached_append, detached_round, GetsDetached,
      eventsAfter_iff (Detached · number) hnil fun m => ih]
    simp only [Option.ne_none_iff_exists', Option.mem_def, and_or_left, exists_or,
      exists_and_right]

/-! ## The read of the table -/

/-- The ports that the read starting with call `n` takes for stale: none if it succeeds at once. -/
def takenForStale (env : Environment) (n : Nat) : List Text :=
  if isOk (readPortTable (env n portCall)) then []
  else staleVhciPorts (env (n + 1) .readVhciStatus)

/-- A read of the table tries to detach what its recovery comes to, and frees what that frees. -/
theorem resilient_iff :
    (Tried (events env n queryAttachedPortsResilient) number ↔
        ComesTo env number (n + 2) (takenForStale env n)) ∧
      (Detached (events env n queryAttachedPortsResilient) number ↔
        GetsDetached env number (n + 2) (takenForStale env n)) := by
  have hport : ∀ m, ¬ Tried [⟨portCall, env m portCall⟩] number := fun m =>
    not_tried_of_noDetach fun e he => by
      rw [List.mem_singleton.mp he]
      exact harmless_portCall
  cases h : readPortTable (env n portCall) with
  | ok ports =>
    rw [(resilient_of_ok h).1, takenForStale, h, isOk, if_pos rfl]
    exact ⟨iff_of_false (hport n) id, iff_of_false (fun hdetached => hport n hdetached.tried) id⟩
  | error err =>
    obtain ⟨m, hevents⟩ := resilient_of_error h
    have hlook : ¬ Tried [⟨portCall, env n portCall⟩,
        ⟨.readVhciStatus, env (n + 1) .readVhciStatus⟩] number :=
      not_tried_of_noDetach fun e he => by
        simp only [List.mem_cons, List.not_mem_nil, or_false] at he
        rcases he with rfl | rfl
        · exact harmless_portCall
        · exact harmless_readVhciStatus
    have hparts : events env n queryAttachedPortsResilient
        = [⟨portCall, env n portCall⟩, ⟨.readVhciStatus, env (n + 1) .readVhciStatus⟩]
          ++ (events env (n + 2) (detachEach (staleVhciPorts (env (n + 1) .readVhciStatus)))
            ++ [⟨portCall, env m portCall⟩]) := hevents
    rw [hparts, takenForStale, h, isOk, if_neg Bool.false_ne_true, ← tried_detachEach_iff,
      ← detached_detachEach_iff, tried_append, tried_append, detached_append, detached_append,
      or_iff_right hlook, or_iff_left (hport m), or_iff_right fun hdetached => hlook hdetached.tried,
      or_iff_left fun hdetached => hport m hdetached.tried]
    exact ⟨Iff.rfl, Iff.rfl⟩

end Client
end Lusbip
