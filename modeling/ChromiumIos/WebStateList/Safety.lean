import ChromiumIos.WebStateList.OrderController

/-!
# Safety of the runs of the list

In a run whose operations meet their preconditions, and in which no WebState is
made its own opener, no assertion of the code can fail: every further operation
that meets its precondition returns.  The invariant of `WellFormed` holds in
every state of such a run.
-/

namespace ChromiumIos.WebStateList

open Lib

variable {W : Type} [DecidableEq W]
variable {list after : WebStateList W} {notifications : List (Notification W)}

/-! ## Closing all WebStates -/

variable (lastCommitted : W → Int) (closeFlags : Flags)

theorem closeWebStateAt_isSome {index : Int} (wf : list.WellFormed) (proper : list.NoOwnOpener)
    (inside : list.ContainsIndex index) :
    ∃ after notifications,
      list.closeWebStateAt lastCommitted index closeFlags = some (after, notifications) ∧
      after.WellFormed ∧ after.NoOwnOpener ∧
      after.webStateWrappers.length + 1 = list.webStateWrappers.length := by
  obtain ⟨⟨detached, after, earlier⟩, removed⟩ :=
    detachWebStateAt_isSome lastCommitted wf proper inside
  obtain ⟨effect, _, erased⟩ :=
    detachWebStateAt_effect False wf inside removed
  refine ⟨after, _, closeWebStateAt_eq_some_iff.mpr ⟨detached, earlier, removed, rfl⟩,
    effect.wellFormed wf, effect.noOwnOpener not_false proper, ?_⟩
  have length := congrArg List.length erased
  rw [length_eraseAt inside.1 (by rw [length_webStates]; exact inside.2)] at length
  have positive := Int.lt_of_le_of_lt inside.1 inside.2
  grind [webStates, count]

/-- The loop that closes the last WebState over and over ends with the empty list. -/
theorem closeAllLoop_isSome {bound : Nat} (wf : list.WellFormed) (proper : list.NoOwnOpener)
    (enough : list.webStateWrappers.length ≤ bound) :
    ∃ after notifications,
      closeAllLoop lastCommitted closeFlags bound list = some (after, notifications) ∧
      after.webStateWrappers = [] := by
  induction bound generalizing list with
  | zero => simpa [closeAllLoop] using enough
  | succ _ _ =>
    simp only [closeAllLoop]
    cases nonempty : list.webStateWrappers.isEmpty with
    | true => simpa using nonempty
    | false =>
      obtain ⟨closed, first, closedOne, closedWf, closedProper, shorter⟩ :=
        closeWebStateAt_isSome lastCommitted closeFlags wf proper
          (containsIndex_last nonempty)
      grind

/-! ## Every admissible step returns -/

theorem step_isSome {input : Input W} (wf : list.WellFormed) (proper : list.NoOwnOpener)
    (admissible : list.Admissible input) :
    ∃ after notifications, list.step input = some (after, notifications) := by
  obtain ⟨lastCommitted, operation⟩ := input
  cases operation with
  | insertWebState _ _ _ _ =>
    obtain ⟨fresh, room, forced, known⟩ := admissible
    obtain ⟨chosen, recorded, _, _, _, inserted⟩ :=
      insertWebState_spec lastCommitted wf fresh room forced known
    exact ⟨_, _, inserted⟩
  | moveWebStateAt source _ =>
    obtain ⟨wrapper, taken⟩ := (containsIndex_iff list source).mp admissible.1
    exact ⟨_, _, moveWebStateAt_eq taken admissible.2⟩
  | replaceWebStateAt index _ =>
    obtain ⟨wrapper, taken⟩ := (containsIndex_iff list index).mp admissible.1
    exact ⟨_, _, replaceWebStateAt_eq wf taken admissible.2⟩
  | detachWebStateAt _ =>
    obtain ⟨⟨detached, left, earlier⟩, removed⟩ :=
      detachWebStateAt_isSome lastCommitted wf proper admissible
    simp [step, removed]
  | closeWebStateAt _ closeFlags =>
    obtain ⟨closed, reported, returned, _⟩ :=
      closeWebStateAt_isSome lastCommitted closeFlags wf proper admissible
    exact ⟨closed, reported, returned⟩
  | closeAllWebStates closeFlags =>
    obtain ⟨closed, reported, returned, _⟩ :=
      closeAllLoop_isSome lastCommitted closeFlags wf proper (Nat.le_refl _)
    exact ⟨closed, reported, returned⟩
  | activateWebStateAt _ => exact ⟨_, _, activateWebStateAt_eq wf.active admissible⟩
  | setOpenerOfWebStateAt _ _ =>
    obtain ⟨wrapper, _, _, recorded⟩ := step_setOpener_eq admissible
    grind

/-! ## Runs -/

theorem ProperRun.run (run : ProperRun notifications list) : Run notifications list :=
  run.mono And.left

omit [DecidableEq W] in
theorem empty_noOwnOpener : (empty : WebStateList W).NoOwnOpener :=
  fun _ impossible => absurd impossible List.not_mem_nil

theorem ProperRun.wellFormed (run : ProperRun notifications list) : list.WellFormed :=
  Run.wellFormed (ProperRun.run run)

theorem ProperRun.noOwnOpener (run : ProperRun notifications list) : list.NoOwnOpener := by
  refine (Runs.invariant (fun list => list.WellFormed ∧ list.NoOwnOpener) run
    ⟨empty_wellFormed, empty_noOwnOpener⟩ ?_).2
  grind [step_wellFormed, step_noOwnOpener]

/--
After every operation of a run the active index is invalid or inside the list,
the WebStates are pairwise distinct and every opener is a WebState of the list;
and the next operation that meets its precondition returns.
-/
theorem properRun_safe (run : ProperRun notifications list) :
    (list.activeIndex = kInvalidIndex ∨
      0 ≤ list.activeIndex ∧ list.activeIndex < list.count) ∧
    list.webStates.Pairwise (· ≠ ·) ∧
    (∀ wrapper ∈ list.webStateWrappers, ∀ opening, wrapper.opener.opener = some opening →
      opening ∈ list.webStates) ∧
    ∀ input, list.Admissible input →
      ∃ after emitted, list.step input = some (after, emitted) := by
  have wf := ProperRun.wellFormed run
  refine ⟨wf.active, wf.nodup, wf.known, ?_⟩
  intro input admissible
  exact step_isSome wf (ProperRun.noOwnOpener run) admissible

/-- Three tabs, each opened by another one, after one of them has been moved. -/
def openersInCircle : List (Input Nat) :=
  [⟨fun _ => 3, .insertWebState 0 1 insertActivate .null⟩,
    ⟨fun _ => 3, .insertWebState 0 2 (insertActivate ||| insertInheritOpener) .null⟩,
    ⟨fun _ => 3, .insertWebState 0 3 insertForceIndex ⟨some 2, 0⟩⟩,
    ⟨fun _ => 3, .moveWebStateAt 0 2⟩,
    ⟨fun _ => 3, .setOpenerOfWebStateAt 0 ⟨some 3, 1⟩⟩]

theorem properRun_safe_openersInCircle :
    ∃ notifications, ∃ list : WebStateList Nat, ProperRun notifications list ∧
      list.webStates = [1, 2, 3] ∧ list.activeIndex = 1 ∧
      ∃ after emitted, list.step ⟨fun _ => 3, .closeAllWebStates 0⟩ = some (after, emitted) := by
  have run : ProperRun _ _ :=
    Runs.replay openersInCircle .start (Option.eq_some_of_isSome (by decide))
  exact ⟨_, _, run, by decide, by decide, (properRun_safe run).2.2.2 _ trivial⟩

end ChromiumIos.WebStateList
