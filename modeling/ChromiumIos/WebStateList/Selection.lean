import ChromiumIos.WebStateList.Safety

/-!
# The WebState that is active after a removal

The order controller chooses the index of the WebState it wants to activate and
corrects it for the removal.  The correction takes a minimum where the index
after the removal is wanted, so the choice of a WebState behind the removed one
always ends at the front of the list.  Here the active WebState after a removal
is compared with the one that the comments of the order controller promise.
-/

namespace ChromiumIos.WebStateList

open Lib

variable {W : Type} [DecidableEq W]
variable {list after : WebStateList W} {notifications : List (Notification W)}
variable {relative : W} (lastCommitted : W → Int)

def ActivatesPromised (lastCommitted : W → Int) (list : WebStateList W) (index : Int) : Prop :=
  ∃ promised, list.webStateToActivate index = some promised ∧
    ∃ detached after notifications,
      list.detachWebStateAt lastCommitted index = some (detached, after, notifications) ∧
      after.activeWebState = some promised

/--
The relative that is to be activated, if there is one, stands before the removed
WebState, or the removed one is the first and the relative the second.
-/
def RelativeInPlace (list : WebStateList W) (index : Int) : Prop :=
  ∀ relative ∈ list.relativeToActivate index,
    list.getIndexOfWebState (some relative) < index ∨
      index = 0 ∧ list.getIndexOfWebState (some relative) = 1
deriving Decidable

omit [DecidableEq W] in
/-- Says when the corrected index is still the index of the same WebState. -/
theorem at?_eraseAt_getValidIndex_iff {webStates : List W} (nodup : webStates.Nodup)
    {index position : Int} {removed : W} (taken : at? webStates index = some removed)
    (found : at? webStates position = some relative) :
    at? (eraseAt webStates index) (getValidIndex position index) = some relative ↔
      position < index ∨ index = 0 ∧ position = 1 := by
  have nonneg := ((at?_isSome_iff webStates index).mp (by rw [taken]; rfl)).1
  rcases Int.lt_trichotomy position index with before | same | behind
  · have kept : getValidIndex position index = position := if_neg (by omega)
    rw [kept, at?_eraseAt_of_lt nonneg before]
    exact iff_of_true found (.inl before)
  · subst same
    cases Option.some.inj (taken.symm.trans found)
    refine iff_of_false (fun remaining => not_mem_eraseAt nodup taken (mem_of_at? remaining)) ?_
    omega
  · have front : getValidIndex position index = 0 := by
      simp only [getValidIndex]
      rw [if_pos behind]
      omega
    rw [front]
    rcases Int.le_iff_eq_or_lt.mp nonneg with first | later
    · rw [at?_eraseAt_of_ge nonneg (Int.le_of_eq first.symm), Int.zero_add]
      grind [at?_inj]
    · rw [at?_eraseAt_of_lt nonneg later]
      refine iff_of_false (fun atFront => ?_) (by omega)
      have same := at?_inj nodup found atFront
      omega

/-- After the active WebState has been detached, the chosen index decides. -/
theorem activatesPromised_iff {newActiveIndex : Int} {promised : W} (wf : list.WellFormed)
    (inside : list.ContainsIndex list.activeIndex) (determined :
      list.determineNewActiveIndex lastCommitted list.activeIndex = some newActiveIndex)
    (promise : list.webStateToActivate list.activeIndex = some promised) :
    ActivatesPromised lastCommitted list list.activeIndex ↔
      at? (eraseAt list.webStates list.activeIndex) newActiveIndex = some promised := by
  obtain ⟨wrapper, taken⟩ := (containsIndex_iff list list.activeIndex).mp inside
  have returns := fun {detached after notifications} =>
    @detachWebStateAt_active_iff _ _ list after notifications wrapper detached
      lastCommitted newActiveIndex wf taken determined
  have states : webStates
      ⟨eraseAt (list.clearOpenersReferencing wrapper.webState) list.activeIndex,
        newActiveIndex⟩ = eraseAt list.webStates list.activeIndex :=
    webStates_eraseAt ..
  constructor
  · rintro ⟨other, promise', detached, after, notifications, returned, active⟩
    cases Option.some.inj (promise.symm.trans promise')
    obtain ⟨_, _, rfl, _⟩ := returns.mp returned
    rw [activeWebState, states] at active
    exact active
  · intro active
    rw [← states] at active
    refine ⟨promised, promise, _, _, _, returns.mpr ⟨.inr ?_, rfl, rfl, rfl⟩, active⟩
    exact (containsIndex_iff_webStates _ _).mpr ⟨promised, active⟩

theorem activatesPromised_relative_iff (wf : list.WellFormed)
    (inside : list.ContainsIndex list.activeIndex)
    (related : list.relativeToActivate list.activeIndex = some relative) :
    ActivatesPromised lastCommitted list list.activeIndex ↔
      RelativeInPlace list list.activeIndex := by
  obtain ⟨_, taken⟩ := (containsIndex_iff_webStates list list.activeIndex).mp inside
  have found := at?_getIndexOfWebState (relativeToActivate_spec wf related).1
  have determined := determineNewActiveIndex_eq lastCommitted wf inside
  rw [related] at determined
  rw [activatesPromised_iff lastCommitted wf inside determined
      (by rw [webStateToActivate, related, Option.some_or]),
    at?_eraseAt_getValidIndex_iff wf.nodup taken found]
  simp [RelativeInPlace, related]

/-- Without a relative, the promised neighbour is activated. -/
theorem activatesPromised_neighbour (wf : list.WellFormed)
    (inside : list.ContainsIndex list.activeIndex) (several : 1 < list.count)
    (unrelated : list.relativeToActivate list.activeIndex = none) :
    ActivatesPromised lastCommitted list list.activeIndex := by
  have determined := determineNewActiveIndex_eq lastCommitted wf inside
  rw [unrelated] at determined
  have promise : list.webStateToActivate list.activeIndex =
      list.neighbourToActivate list.activeIndex := by
    simp [webStateToActivate, unrelated]
  have nonneg : 0 ≤ list.activeIndex := inside.1
  have bound : list.activeIndex < list.count := inside.2
  have many : ¬ list.count = 1 := by omega
  dsimp only at determined
  rw [if_neg many] at determined
  by_cases last : list.activeIndex ≥ list.count - 1
  · have before : list.ContainsIndex (list.activeIndex - 1) := ⟨by omega, by omega⟩
    have nothing : at? list.webStates (list.activeIndex + 1) = none := by
      rw [at?_eq_none_iff, length_webStates]
      omega
    obtain ⟨previous, found⟩ := (containsIndex_iff_webStates list _).mp before
    rw [if_pos last] at determined
    rw [neighbourToActivate, nothing, Option.none_or, found] at promise
    apply (activatesPromised_iff lastCommitted wf inside determined promise).mpr
    rw [at?_eraseAt_of_lt nonneg (by omega), found]
  · have behind : list.ContainsIndex (list.activeIndex + 1) := ⟨by omega, by omega⟩
    obtain ⟨_, found⟩ := (containsIndex_iff_webStates list _).mp behind
    rw [if_neg last] at determined
    rw [neighbourToActivate, found, Option.some_or] at promise
    apply (activatesPromised_iff lastCommitted wf inside determined promise).mpr
    rw [at?_eraseAt_of_ge nonneg (Int.le_refl _), found]

/--
On every list that a run reaches and that has several WebStates, detaching the
active one makes the promised WebState active exactly if the relative it may
have is in place.
-/
theorem detach_activatesPromised_iff (run : Run notifications list) (several : 1 < list.count)
    (inside : list.ContainsIndex list.activeIndex) (lastCommitted : W → Int) :
    ActivatesPromised lastCommitted list list.activeIndex ↔
      RelativeInPlace list list.activeIndex := by
  have wf := Run.wellFormed run
  cases related : list.relativeToActivate list.activeIndex with
  | some _ => exact activatesPromised_relative_iff lastCommitted wf inside related
  | none =>
    apply iff_of_true (activatesPromised_neighbour lastCommitted wf inside several related)
    simp [RelativeInPlace, related]

def openedSecond : List (Input Nat) :=
  [⟨fun _ => 0, .insertWebState 0 1 insertActivate .null⟩,
    ⟨fun _ => 0, .insertWebState 0 2 (insertActivate ||| insertInheritOpener) .null⟩,
    ⟨fun _ => 0, .insertWebState 2 3 insertForceIndex .null⟩]

/-- Detaching it activates its opener, which stands before it. -/
theorem detach_activatesPromised_openedSecond :
    ActivatesPromised (fun _ => 0) (⟨[⟨1, .null⟩, ⟨2, ⟨some 1, 0⟩⟩, ⟨3, .null⟩], 1⟩ :
      WebStateList Nat) 1 :=
  (detach_activatesPromised_iff (Runs.replay openedSecond .start
    (Option.eq_some_of_isSome (by decide))) (by decide) (by decide) (fun _ => 0)).mpr
      (by decide)

def openedThird : List (Input Nat) :=
  [⟨fun _ => 0, .insertWebState 0 1 0 .null⟩,
    ⟨fun _ => 0, .insertWebState 1 2 (insertActivate ||| insertForceIndex) .null⟩,
    ⟨fun _ => 0, .insertWebState 0 3 insertInheritOpener .null⟩]

/-- Detaching it should activate the tab it opened, and activates the first one. -/
theorem detach_activates_first_instead_of_child :
    ∃ notifications, ∃ list : WebStateList Nat, Run notifications list ∧
      1 < list.count ∧ list.ContainsIndex list.activeIndex ∧
      list.webStateToActivate list.activeIndex = some 3 ∧
      (∃ detached after emitted,
        list.detachWebStateAt (fun _ => 0) list.activeIndex = some (detached, after, emitted) ∧
        after.activeWebState = some 1) ∧
      ¬ ActivatesPromised (fun _ => 0) list list.activeIndex := by
  refine ⟨_, ⟨[⟨1, .null⟩, ⟨2, .null⟩, ⟨3, ⟨some 2, 0⟩⟩], 1⟩,
    Runs.replay openedThird .start (Option.eq_some_of_isSome (by decide)),
    by decide, by decide, by decide, ?_, ?_⟩
  · exact ⟨2, ⟨[⟨1, .null⟩, ⟨3, .null⟩], 0⟩, _, rfl, rfl⟩
  · rintro ⟨promised, promise, detached, after, emitted, returned, active⟩
    cases Option.some.inj (promise.symm.trans (show _ = some 3 by decide))
    cases returned
    revert active
    decide

end ChromiumIos.WebStateList
