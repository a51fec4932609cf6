import Mathlib.Algebra.Group.Nat.Defs
import Lusbip.Tui.ActionList

/-!
# Refreshes of the list

An action that has been carried out makes every snapshot stale that was asked for before its result
was seen. The loop tells them by their sequence numbers: a result raises `minimum_refresh_seq` to the
number of the refresh that it asks for. The numbers rise with every request as long as the counter
does not wrap, so that a number which reaches the minimum was sent after the last result: `Timely`.

`refresh_pending` is taken back by any snapshot that is not stale, and the last request is such a
one. So while the flag is up, the last request is still on its way.
-/

namespace Lusbip
namespace Tui

open Lib
open Lib.Transition
open Agent (TuiItem)

namespace ActionList

/-- The list refreshes as it should. -/
structure Refreshing (s : ActionList) : Prop where
  /-- A snapshot that has replaced the rows was requested after the last action result that had
      been processed by then. -/
  fresh : ∀ e ∈ s.applied, e.1.results = e.2
  /-- The rows change by an action result, or by a snapshot that is noted. -/
  replaced : ∀ move t, s.step move = some t → t.items ≠ s.items → move ≠ .result →
    ∃ request nextItems itemsQueue, move = .snapshot ∧
      s.itemsQueue = (request, .ok nextItems) :: itemsQueue ∧
      t.applied = s.applied ++ [(request, s.results)] ∧ request.results = s.results
  /-- A refresh that is waited for is on its way. -/
  awaited : s.refreshPending = true → ∃ r ∈ s.inFlight, s.minimumRefreshSeq ≤ r.seq

/-- What the loop knows of the refreshes. -/
structure Timely (s : ActionList) : Prop where
  counted : s.refreshSeq.toNat = s.refreshes
  minimum : s.minimumRefreshSeq ≤ s.refreshSeq
  known : ∀ r ∈ s.inFlight, r.seq ≤ s.refreshSeq ∧
    (s.minimumRefreshSeq ≤ r.seq → r.results = s.results)
  applied : ∀ e ∈ s.applied, e.1.results = e.2
  alive : s.refreshThread ≠ .gone
  pending : s.refreshPending = true → ∃ r ∈ s.inFlight, r.seq = s.refreshSeq

variable {s t : ActionList} {move : Move}

theorem timely_start (items : List TuiItem) : (start items).Timely where
  counted := rfl
  minimum := Nat.le_refl _
  known _ h := nomatch h
  applied _ h := nomatch h
  alive h := nomatch h
  pending h := nomatch h

theorem Timely.withPhase (h : s.Timely) (phase : Phase) : Timely { s with phase } :=
  ⟨h.counted, h.minimum, h.known, h.applied, h.alive, h.pending⟩

/-! ## What has nothing to do with refreshes -/

/-- Two states of the same refreshes. -/
structure SameRefreshes (s t : ActionList) : Prop where
  pending : t.refreshPending = s.refreshPending
  seq : t.refreshSeq = s.refreshSeq
  minimum : t.minimumRefreshSeq = s.minimumRefreshSeq
  inFlight : t.inFlight = s.inFlight
  gone : t.refreshThread = .gone → s.refreshThread = .gone
  results : t.results = s.results
  refreshes : t.refreshes = s.refreshes
  applied : t.applied = s.applied

theorem SameRefreshes.of_eq (hp : t.refreshPending = s.refreshPending)
    (hs : t.refreshSeq = s.refreshSeq) (hm : t.minimumRefreshSeq = s.minimumRefreshSeq)
    (hi : t.itemsQueue = s.itemsQueue) (ht : t.refreshThread = s.refreshThread)
    (hq : t.refreshQueue = s.refreshQueue) (hr : t.results = s.results)
    (hn : t.refreshes = s.refreshes) (ha : t.applied = s.applied) : SameRefreshes s t :=
  ⟨hp, hs, hm, by simp only [ActionList.inFlight, hi, ht, hq], fun hgone => ht.symm.trans hgone,
    hr, hn, ha⟩

theorem Timely.same (h : s.Timely) (hs : SameRefreshes s t) : t.Timely where
  counted := by
    rw [hs.seq, hs.refreshes]
    exact h.counted
  minimum := by
    rw [hs.minimum, hs.seq]
    exact h.minimum
  known := by
    rw [hs.inFlight, hs.seq, hs.minimum, hs.results]
    exact h.known
  applied := by
    rw [hs.applied]
    exact h.applied
  alive hgone := h.alive (hs.gone hgone)
  pending := by
    rw [hs.pending, hs.inFlight, hs.seq]
    exact h.pending

theorem toggle_sameRefreshes (s : ActionList) (action : QueuedAction) :
    SameRefreshes s (s.toggle action) := by
  unfold toggle
  dsimp only
  split <;> split <;> exact .of_eq rfl rfl rfl rfl rfl rfl rfl rfl rfl

theorem showResult_sameRefreshes (s : ActionList) (action : QueuedAction)
    (result : Except Text Text) : SameRefreshes s (s.showResult action result) := by
  unfold showResult
  cases result with
  | ok text =>
    obtain ⟨hp, hs, hm, hi, hg, hr, hn, ha⟩ := toggle_sameRefreshes
      { s with
        postActionProcessing := s.postActionProcessing.bind (·.finish action.item.id)
        dirty := true } action
    exact ⟨hp, hs, hm, hi, hg, hr, hn, ha⟩
  | error err => exact .of_eq rfl rfl rfl rfl rfl rfl rfl rfl rfl

theorem draw_sameRefreshes (s : ActionList) (spinnerDue : Bool) (drawn : Except Text Unit) :
    SameRefreshes s (s.draw spinnerDue drawn) := by
  have htick : SameRefreshes s (s.clamp.tickSpinner spinnerDue) := by
    unfold tickSpinner
    split
    · split <;> exact .of_eq rfl rfl rfl rfl rfl rfl rfl rfl rfl
    · exact .of_eq rfl rfl rfl rfl rfl rfl rfl rfl rfl
  obtain ⟨hp, hs, hm, hi, hg, hr, hn, ha⟩ := htick
  unfold draw
  dsimp only
  split
  · cases drawn <;> exact ⟨hp, hs, hm, hi, hg, hr, hn, ha⟩
  · exact ⟨hp, hs, hm, hi, hg, hr, hn, ha⟩

theorem activate_sameRefreshes (s : ActionList) : SameRefreshes s s.activate := by
  unfold activate
  split
  · exact .of_eq rfl rfl rfl rfl rfl rfl rfl rfl rfl
  · split
    · exact .of_eq rfl rfl rfl rfl rfl rfl rfl rfl rfl
    · split
      · exact .of_eq rfl rfl rfl rfl rfl rfl rfl rfl rfl
      · unfold enqueue
        dsimp only
        split <;> exact .of_eq rfl rfl rfl rfl rfl rfl rfl rfl rfl

theorem handle_sameRefreshes (s : ActionList) (event : Event) :
    SameRefreshes s (s.handle event) := by
  unfold handle
  split
  case h_3 => exact activate_sameRefreshes s
  all_goals exact .of_eq rfl rfl rfl rfl rfl rfl rfl rfl rfl

theorem spinnerEvent_sameRefreshes (s : ActionList) (currentSelected : Nat) (event : Event) :
    SameRefreshes s (s.spinnerEvent currentSelected event) := by
  unfold spinnerEvent
  split <;> exact .of_eq rfl rfl rfl rfl rfl rfl rfl rfl rfl

/-! ## Requests -/

theorem requestRefresh_of_alive (h : s.refreshThread ≠ .gone) :
    s.requestRefresh =
      { s with
        refreshSeq := s.refreshSeq + 1
        refreshes := s.refreshes + 1
        refreshPending := true
        refreshQueue := s.refreshQueue ++ [{ seq := s.refreshSeq + 1, results := s.results }] } := by
  unfold requestRefresh
  dsimp only
  split
  · exact absurd ‹_› h
  · rfl

theorem refreshes_requestRefresh (s : ActionList) :
    s.requestRefresh.refreshes = s.refreshes + 1 := by
  unfold requestRefresh
  dsimp only
  split <;> rfl

theorem toNat_succ_refreshSeq (h : s.Timely) (hfew : s.refreshes + 1 < 2 ^ 64) :
    (s.refreshSeq + 1).toNat = s.refreshSeq.toNat + 1 := by
  have hcounted := h.counted
  rw [UInt64.toNat_add]
  exact Nat.mod_eq_of_lt (by simp; omega)

/-- The request that is sent last has the highest number, whether it is a tick that it is sent for,
    or an action result that leaves every other one behind the minimum. -/
theorem Timely.sent (h : s.Timely) (hfew : s.refreshes + 1 < 2 ^ 64) {minimum : UInt64}
    {results : Nat} (hmin : minimum ≤ s.refreshSeq + 1)
    (hknown : ∀ r ∈ s.inFlight, minimum ≤ r.seq → r.results = results) :
    Timely
      { s with
        refreshSeq := s.refreshSeq + 1
        refreshes := s.refreshes + 1
        refreshPending := true
        refreshQueue := s.refreshQueue ++ [{ seq := s.refreshSeq + 1, results }]
        minimumRefreshSeq := minimum
        results } := by
  have hsucc := toNat_succ_refreshSeq h hfew
  have hlast : ∀ r, r ∈ (s.itemsQueue.map (·.1) ++ s.refreshThread.jobs ++
      (s.refreshQueue ++ [{ seq := s.refreshSeq + 1, results }])) ↔
      r ∈ s.inFlight ∨ r = { seq := s.refreshSeq + 1, results } := by
    intro r
    rw [← List.append_assoc, List.mem_append, List.mem_singleton]
    rfl
  refine ⟨?_, hmin, fun r hr => ?_, h.applied, h.alive, fun _ => ?_⟩
  · dsimp only
    rw [hsucc, h.counted]
  · rcases (hlast r).mp hr with hr | rfl
    · refine ⟨?_, hknown r hr⟩
      have hle : r.seq.toNat ≤ s.refreshSeq.toNat := (h.known r hr).1
      show r.seq.toNat ≤ (s.refreshSeq + 1).toNat
      omega
    · exact ⟨Nat.le_refl _, fun _ => rfl⟩
  · exact ⟨_, (hlast _).mpr (Or.inr rfl), rfl⟩

theorem Timely.requestRefresh (h : s.Timely) (hfew : s.refreshes + 1 < 2 ^ 64) :
    s.requestRefresh.Timely := by
  rw [requestRefresh_of_alive h.alive]
  refine h.sent hfew ?_ fun r hr => (h.known r hr).2
  have hsucc := toNat_succ_refreshSeq h hfew
  have hmin : s.minimumRefreshSeq.toNat ≤ s.refreshSeq.toNat := h.minimum
  show s.minimumRefreshSeq.toNat ≤ (s.refreshSeq + 1).toNat
  omega

/-! ## The parts of the loop -/

theorem Timely.processResult (h : s.Timely) (action : QueuedAction) (result : Except Text Text)
    (hfew : s.refreshes + 1 < 2 ^ 64) : (s.processResult action result).Timely := by
  have hsame := showResult_sameRefreshes s action result
  have h₂ := h.same hsame
  have halive : { s.showResult action result with
      results := (s.showResult action result).results + 1 }.refreshThread ≠ .gone := h₂.alive
  rw [ActionList.processResult, requestRefresh_of_alive halive]
  refine h₂.sent (hsame.refreshes ▸ hfew) (Nat.le_refl _) fun r hr hle => ?_
  -- The new minimum is beyond every number that was sent before.
  have hsucc := toNat_succ_refreshSeq h₂ (hsame.refreshes ▸ hfew)
  have hold := UInt64.le_iff_toNat_le.mp (h₂.known r hr).1
  have hnew : ((s.showResult action result).refreshSeq + 1).toNat ≤ r.seq.toNat := hle
  omega

theorem Timely.trySnapshot (h : s.Timely) : s.trySnapshot.Timely := by
  unfold ActionList.trySnapshot
  split
  · rename_i request result itemsQueue hq
    have hinFlight : s.inFlight = request :: inFlight { s with itemsQueue } := by
      simp [inFlight, hq]
    have hknown : ∀ r ∈ inFlight { s with itemsQueue }, r ∈ s.inFlight := fun r hr =>
      hinFlight ▸ List.mem_cons_of_mem _ hr
    have hrequest := h.known request (hinFlight ▸ List.mem_cons_self)
    dsimp only [processSnapshot]
    split
    · rename_i hstale
      refine ⟨h.counted, h.minimum, fun r hr => h.known r (hknown r hr), h.applied, h.alive,
        fun hp => ?_⟩
      -- The last request is not stale, so it is another one.
      obtain ⟨r, hr, hseq⟩ := h.pending hp
      rw [hinFlight] at hr
      rcases List.mem_cons.mp hr with rfl | hr
      · have hlt : r.seq.toNat < s.minimumRefreshSeq.toNat := hstale
        have hmin : s.minimumRefreshSeq.toNat ≤ s.refreshSeq.toNat := h.minimum
        rw [hseq] at hlt
        omega
      · exact ⟨r, hr, hseq⟩
    · rename_i hnot
      have hmin : s.minimumRefreshSeq ≤ request.seq := UInt64.not_lt.mp hnot
      cases result with
      | error err =>
        exact ⟨h.counted, h.minimum, fun r hr => h.known r (hknown r hr), h.applied, h.alive,
          fun hp => (nomatch hp)⟩
      | ok nextItems =>
        refine ⟨h.counted, h.minimum, fun r hr => h.known r (hknown r hr), fun e he => ?_, h.alive,
          fun hp => (nomatch hp)⟩
        rcases List.mem_append.mp he with he | he
        · exact h.applied e he
        · rw [List.mem_singleton.mp he]
          exact hrequest.2 hmin
  · exact h.withPhase .drawing

theorem Timely.idle (h : s.Timely) (refreshDue : Bool)
    (hfew : (s.idle refreshDue).refreshes < 2 ^ 64) : (s.idle refreshDue).Timely := by
  unfold ActionList.idle at hfew ⊢
  dsimp only at hfew ⊢
  split at hfew
  · rename_i hdue
    rw [if_pos hdue]
    rw [refreshes_requestRefresh] at hfew
    exact (h.requestRefresh hfew).withPhase .results
  · rename_i hdue
    rw [if_neg hdue]
    exact h.withPhase .results

/-! ## A step -/

theorem refreshes_processResult (s : ActionList) (action : QueuedAction)
    (result : Except Text Text) :
    (s.processResult action result).refreshes = s.refreshes + 1 := by
  rw [processResult]
  dsimp only
  rw [refreshes_requestRefresh, (showResult_sameRefreshes s action result).refreshes]

theorem refreshes_trySnapshot (s : ActionList) : s.trySnapshot.refreshes = s.refreshes := by
  unfold trySnapshot
  split
  · dsimp only [processSnapshot]
    split
    · rfl
    · split <;> rfl
  · rfl

/-- Requests are counted. -/
theorem refreshes_le (hs : s.step move = some t) : s.refreshes ≤ t.refreshes := by
  cases step_turn hs with
  | result hp =>
    unfold tryResult
    split
    · rw [refreshes_processResult]
      exact Nat.le_succ _
    · exact Nat.le_refl _
  | snapshot hp => exact (refreshes_trySnapshot s).ge
  | draw spinnerDue drawn hp => exact (draw_sameRefreshes s spinnerDue drawn).refreshes.ge
  | timeout refreshDue hp =>
    unfold idle
    dsimp only
    split
    · rw [refreshes_requestRefresh]
      exact Nat.le_succ _
    · exact Nat.le_refl _
  | event event hp => exact (handle_sameRefreshes s event).refreshes.ge
  | spinnerEvent event currentSelected hp =>
    exact (spinnerEvent_sameRefreshes s currentSelected event).refreshes.ge
  | _ => exact Nat.le_refl _

theorem Timely.step (h : s.Timely) (halive : move ≠ .refreshEnds) (hs : s.step move = some t)
    (hfew : t.refreshes < 2 ^ 64) : t.Timely := by
  cases step_turn hs with
  | result hp =>
    unfold tryResult at hfew ⊢
    split at hfew
    · rename_i action result actionResultQueue hq
      rw [refreshes_processResult] at hfew
      refine Timely.processResult ?_ action result hfew
      exact ⟨h.counted, h.minimum, h.known, h.applied, h.alive, h.pending⟩
    · exact h.withPhase .snapshots
  | snapshot hp => exact h.trySnapshot
  | draw spinnerDue drawn hp => exact h.same (draw_sameRefreshes s spinnerDue drawn)
  | timeout refreshDue hp => exact h.idle refreshDue hfew
  | event event hp => exact h.same (handle_sameRefreshes s event)
  | spinnerEvent event currentSelected hp =>
    exact h.same (spinnerEvent_sameRefreshes s currentSelected event)
  | takeRefresh request refreshQueue ht hq =>
    -- The request goes on, and stands where it stood.
    refine h.same ⟨rfl, rfl, rfl, ?_, fun hg => (nomatch hg), rfl, rfl, rfl⟩
    simp [inFlight, Thread.jobs, ht, hq]
  | loaded result request ht =>
    refine h.same ⟨rfl, rfl, rfl, ?_, fun hg => (nomatch hg), rfl, rfl, rfl⟩
    simp [inFlight, Thread.jobs, ht]
  | refreshEnds => exact absurd rfl halive
  | _ => exact ⟨h.counted, h.minimum, h.known, h.applied, h.alive, h.pending⟩

/-! ## The rows -/

theorem items_draw (s : ActionList) (spinnerDue : Bool) (drawn : Except Text Unit) :
    (s.draw spinnerDue drawn).items = s.items := by
  have htick : (s.clamp.tickSpinner spinnerDue).items = s.items := by
    unfold tickSpinner
    split
    · split <;> rfl
    · rfl
  unfold draw
  dsimp only
  split
  · cases drawn <;> exact htick
  · exact htick

theorem items_requestRefresh (s : ActionList) : s.requestRefresh.items = s.items := by
  unfold requestRefresh
  dsimp only
  split <;> rfl

theorem items_idle (s : ActionList) (refreshDue : Bool) : (s.idle refreshDue).items = s.items := by
  unfold idle
  dsimp only
  split
  · exact items_requestRefresh s
  · rfl

theorem items_activate (s : ActionList) : s.activate.items = s.items := by
  unfold activate
  split
  · rfl
  · split
    · rfl
    · split
      · rfl
      · unfold enqueue
        dsimp only
        split <;> rfl

theorem items_handle (s : ActionList) (event : Event) : (s.handle event).items = s.items := by
  unfold handle
  split
  case h_3 => exact items_activate s
  all_goals rfl

theorem items_spinnerEvent (s : ActionList) (currentSelected : Nat) (event : Event) :
    (s.spinnerEvent currentSelected event).items = s.items := by
  unfold spinnerEvent
  split <;> rfl

/-- A snapshot replaces the rows, or leaves them alone. -/
theorem trySnapshot_items (h : s.Timely) (hne : s.trySnapshot.items ≠ s.items) :
    ∃ request nextItems itemsQueue, s.itemsQueue = (request, .ok nextItems) :: itemsQueue ∧
      s.trySnapshot.applied = s.applied ++ [(request, s.results)] ∧
      request.results = s.results := by
  have htimely := h.trySnapshot.applied
  unfold trySnapshot at hne htimely ⊢
  cases hq : s.itemsQueue with
  | nil =>
    rw [hq] at hne
    exact absurd rfl hne
  | cons entry itemsQueue =>
    obtain ⟨request, result⟩ := entry
    rw [hq] at hne htimely
    dsimp only [processSnapshot] at hne htimely ⊢
    split at hne
    · exact absurd rfl hne
    · rename_i hnot
      rw [if_neg hnot] at htimely ⊢
      cases result with
      | error err => exact absurd rfl hne
      | ok nextItems =>
        refine ⟨request, nextItems, itemsQueue, rfl, rfl, ?_⟩
        exact htimely (request, s.results) (List.mem_append_right _ (List.mem_singleton_self _))

theorem Timely.refreshing (h : s.Timely) : s.Refreshing where
  fresh := h.applied
  awaited hp := by
    obtain ⟨r, hr, hseq⟩ := h.pending hp
    exact ⟨r, hr, hseq ▸ h.minimum⟩
  replaced move t hs hne hmove := by
    cases step_turn hs with
    | result hp => exact absurd rfl hmove
    | snapshot hp =>
      obtain ⟨request, nextItems, itemsQueue, hq, happlied, hresults⟩ := trySnapshot_items h hne
      exact ⟨request, nextItems, itemsQueue, rfl, hq, happlied, hresults⟩
    | draw spinnerDue drawn hp => exact absurd (items_draw s spinnerDue drawn) hne
    | timeout refreshDue hp => exact absurd (items_idle s refreshDue) hne
    | event event hp => exact absurd (items_handle s event) hne
    | spinnerEvent event currentSelected hp =>
      exact absurd (items_spinnerEvent s currentSelected event) hne
    | _ => exact absurd rfl hne

/-! ## Runs -/

/-- **The list never shows a stale snapshot and never stops refreshing**: in every state it comes to
    by any order of keys, results, snapshots and ticks, while it has requested fewer than `2 ^ 64`
    refreshes and its threads are alive. -/
theorem refreshing_of_run {items : List TuiItem} {moves : List Move}
    (halive : ∀ move ∈ moves, move ≠ .refreshEnds ∧ move ≠ .actionEnds)
    (hr : run step (start items) moves = some s) (hfew : s.refreshes < 2 ^ 64) :
    s.Refreshing := by
  have hinv : s.refreshes < 2 ^ 64 → s.Timely := by
    refine invariant_of_along (P := fun _ move => move ≠ .refreshEnds)
      (I := fun s => s.refreshes < 2 ^ 64 → s.Timely) ?_ (fun _ => timely_start items) ?_ hr
    · intro s move t h hmove hs hfew
      exact (h ((refreshes_le hs).trans_lt hfew)).step hmove hs hfew
    · exact along_of_mem (fun move hm => (halive move hm).1) _
  exact (hinv hfew).refreshing

/-- A row that is not attached. -/
def freeRow : TuiItem where
  id := "1-1".toList
  label := "[ ] | 1-1 | CP2102".toList

/-- A refresh is asked for, and the row is toggled before it has loaded. -/
def overtakenRefresh : List Move :=
  [.result, .snapshot, .draw false (.ok ()), .timeout true, .takeRefresh,
   .result, .snapshot, .draw false (.ok ()), .event (.key { code := .char ' ' }), .takeAction,
   .activated (.ok []), .loaded (.ok [freeRow]), .result, .result, .snapshot, .snapshot]

theorem overtakenRefresh_runs :
    (run step (start [freeRow]) overtakenRefresh).isSome = true := by
  decide +kernel

theorem overtakenRefresh_refreshing :
    ∃ s, run step (start [freeRow]) overtakenRefresh = some s ∧ s.Refreshing := by
  have halive : ∀ move ∈ overtakenRefresh, move ≠ .refreshEnds ∧ move ≠ .actionEnds := by decide
  have hrun := (Option.some_get overtakenRefresh_runs).symm
  exact ⟨_, hrun, refreshing_of_run halive hrun (by decide +kernel)⟩

/-- What was loaded is not shown, and another refresh is on its way. -/
example : (run step (start [freeRow]) overtakenRefresh).map
    (fun s => (s.items.map (·.label), s.refreshPending, s.inFlight.map (·.seq))) =
      some (["[x] | 1-1 | CP2102".toList], true, [2]) := by
  decide +kernel

end ActionList
end Tui
end Lusbip
