import Mathlib.Data.Prod.Lex
import Mathlib.Order.WellFounded
import Lusbip.Lib.Transition

/-!
# What a system can come to

`CanReach` says that some run leads to a goal, by moves that may be counted on. It is what
remains of *eventually* where nothing is said about the order in which the parties move: if it
holds in every state that a system gets into, no order of moves has put the goal out of reach.

`canReach_of_variant` is the rule for it. Short of the goal there has to be a move that keeps
the invariant and brings a variant down.
-/

namespace Lib
namespace Transition

variable {σ α : Type*}

/-- A run of moves that may be counted on leads to the goal. -/
inductive CanReach (step : σ → α → Option σ) (may : σ → α → Prop) (goal : σ → Prop) :
    σ → Prop where
  | here {s : σ} (h : goal s) : CanReach step may goal s
  | next {s t : σ} (a : α) (hm : may s a) (hs : step s a = some t)
      (h : CanReach step may goal t) : CanReach step may goal s

variable {step : σ → α → Option σ} {may : σ → α → Prop} {goal : σ → Prop}

theorem canReach_of_variant {β : Type*} [LT β] [WellFoundedLT β] {I : σ → Prop}
    (variant : σ → β)
    (h : ∀ s, I s → goal s ∨ ∃ a t, may s a ∧ step s a = some t ∧
      (goal t ∨ I t ∧ variant t < variant s)) (s : σ) (hs : I s) :
    CanReach step may goal s := by
  generalize hn : variant s = n
  induction n using WellFoundedLT.induction generalizing s with
  | ind n ih =>
    rcases h s hs with hgoal | ⟨a, t, hm, hstep, hgoal | ⟨ht, hlt⟩⟩
    · exact .here hgoal
    · exact .next a hm hstep (.here hgoal)
    · exact .next a hm hstep (ih (variant t) (hn ▸ hlt) t ht rfl)

end Transition
end Lib
