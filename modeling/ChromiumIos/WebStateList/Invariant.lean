import ChromiumIos.WebStateList.Effects

/-!
# The invariant of the list

Every effect keeps the list well formed: the active index stays invalid or
inside the list, the WebStates stay distinct, and every opener stays one of
them.  The operations are sequences of effects, so the invariant holds in every
state of every run.
-/

namespace ChromiumIos.WebStateList

open Lib

variable {W : Type}

/-! ## Every effect keeps the invariant -/

namespace WellFormed

variable {list : WebStateList W} {index : Int} {wrapper : WebStateWrapper W} {webState : W}
variable {opener : WebStateOpener W}

theorem insert (wf : list.WellFormed) (nonneg : 0 ≤ index) (inside : index ≤ list.count)
    (room : list.count < intMax) (fresh : webState ∉ list.webStates)
    (known : ∀ opening ∈ opener.opener, opening ∈ list.webStates) :
    (list.withNew index webState opener).WellFormed := by
  have length := length_insertAt (WebStateWrapper.mk webState opener) nonneg inside
  have member : ∀ element, element ∈ list.webStates →
      element ∈ (list.withNew index webState opener).webStates := by
    grind [webStates_withNew, mem_insertAt, length_webStates]
  constructor
  · obtain invalid | valid := wf.active
    · left
      change insertShift index list.activeIndex = kInvalidIndex
      rw [invalid]
      unfold insertShift kInvalidIndex
      split <;> omega
    · right
      simp only [ContainsIndex, count, withNew, insertShift] at *
      omega
  · rw [webStates_withNew]
    exact nodup_insertAt wf.nodup fresh nonneg (by rw [length_webStates]; exact inside)
  · intro other included opening recorded
    rcases (mem_insertAt nonneg inside).mp included with rfl | old <;> grind [mem_insertAt,
      wf.known]
  · simp only [count, withNew] at *
    simp only [length]
    omega

theorem move {source target : Int} (wf : list.WellFormed)
    (taken : at? list.webStateWrappers source = some wrapper)
    (inside : list.ContainsIndex target) :
    (list.withMoved source target wrapper).WellFormed := by
  have perm := move_perm taken inside.1 inside.2
  have permStates := perm.map WebStateWrapper.webState
  constructor
  · have sourceInside := (containsIndex_iff list source).mpr ⟨wrapper, taken⟩
    obtain invalid | valid := wf.active
    · left
      change moveShift source target list.activeIndex = kInvalidIndex
      simp only [moveShift, ContainsIndex, kInvalidIndex] at *
      split_ifs <;> omega
    · right
      grind [ContainsIndex, withMoved, count, moveShift, perm.length_eq]
  · exact permStates.nodup_iff.mpr wf.nodup
  · grind [withMoved, webStates, wf.known]
  · simpa [count, withMoved, perm.length_eq] using wf.representable

variable [DecidableEq W]

theorem replace (wf : list.WellFormed)
    (taken : at? list.webStateWrappers index = some wrapper)
    (fresh : webState ∉ list.webStates) :
    (list.withReplaced index wrapper.webState webState).WellFormed := by
  have takenState := at?_webStates_of_taken taken
  have count_eq : (list.withReplaced index wrapper.webState webState).count = list.count := by
    simp [withReplaced, count]
  constructor
  · simp only [ActiveInRange, ContainsIndex]
    rw [count_eq]
    exact wf.active
  · rw [webStates_withReplaced]
    exact nodup_setAt wf.nodup fresh
  · intro other included opening recorded
    rw [webStates_withReplaced]
    rcases mem_or_eq_of_mem_setAt included with old | rfl
    · obtain ⟨before, present, rfl⟩ := List.mem_map.mp old
      grind [clearOpener_opener_of_mem, mem_setAt_of_ne, wf.known]
    · cases recorded
  · rw [count_eq]
    exact wf.representable

/-- Erasing the wrapper at `index` and clearing the references to it. -/
theorem detach {after : WebStateList W} (wf : list.WellFormed)
    (taken : at? list.webStateWrappers index = some wrapper)
    (wrappers : after.webStateWrappers =
      eraseAt (list.clearOpenersReferencing wrapper.webState) index)
    (inRange : after.ActiveInRange) : after.WellFormed := by
  have takenState := at?_webStates_of_taken taken
  have states := webStates_erased wrappers
  refine ⟨inRange, ?_, ?_, ?_⟩
  · rw [states]
    exact nodup_eraseAt wf.nodup index
  · intro other included opening recorded
    rw [wrappers] at included
    obtain ⟨before, present, rfl⟩ := List.mem_map.mp (mem_of_mem_eraseAt included)
    grind [clearOpener_opener_of_mem, mem_eraseAt_of_ne, wf.known]
  · have inside := (containsIndex_iff list index).mpr ⟨wrapper, taken⟩
    have length : (eraseAt (list.clearOpenersReferencing wrapper.webState) index).length = _ :=
      length_eraseAt inside.1 (by simpa [count] using inside.2)
    have representable := wf.representable
    simp only [count] at *
    rw [wrappers, length, length_clearOpenersReferencing]
    omega

omit [DecidableEq W] in
theorem setOpener (wf : list.WellFormed) (taken : at? list.webStateWrappers index = some wrapper)
    (known : ∀ opening ∈ opener.opener, opening ∈ list.webStates) :
    (list.withOpener index wrapper.webState opener).WellFormed := by
  have count_eq : (list.withOpener index wrapper.webState opener).count = list.count := by
    simp [withOpener, count]
  constructor
  · simp only [ActiveInRange, ContainsIndex]
    rw [count_eq]
    exact wf.active
  · rw [webStates_withOpener taken]
    exact wf.nodup
  · grind [withOpener, webStates, webStates_withOpener, mem_or_eq_of_mem_setAt, wf.known]
  · rw [count_eq]
    exact wf.representable

end WellFormed

variable [DecidableEq W]

theorem activeInRange_eraseShift {list : WebStateList W} {index : Int}
    {wrapper : WebStateWrapper W} (wf : list.WellFormed)
    (taken : at? list.webStateWrappers index = some wrapper)
    (inactive : list.activeIndex ≠ index) :
    ActiveInRange ⟨eraseAt (list.clearOpenersReferencing wrapper.webState) index,
      eraseShift index list.activeIndex⟩ := by
  have inside := (containsIndex_iff list index).mpr ⟨wrapper, taken⟩
  have length : (eraseAt (list.clearOpenersReferencing wrapper.webState) index).length = _ :=
    length_eraseAt inside.1 (by simpa [count] using inside.2)
  rw [length_clearOpenersReferencing] at length
  obtain invalid | valid := wf.active
  · left
    grind [eraseShift, kInvalidIndex, ContainsIndex]
  · right
    simp only [ContainsIndex, count, eraseShift] at *
    simp only [length]
    split <;> omega

theorem Effect.wellFormed {OwnOpener : Prop} {list after : WebStateList W}
    {notifications : List (Notification W)} (wf : list.WellFormed)
    (effect : Effect OwnOpener list notifications after) : after.WellFormed := by
  cases effect with
  | insert _ nonneg inside room fresh known =>
    exact wf.insert nonneg inside room fresh known
  | move taken inside => exact wf.move taken inside
  | replace taken fresh => exact wf.replace taken fresh
  | detachInactive taken inactive =>
    exact wf.detach taken rfl (activeInRange_eraseShift wf taken inactive)
  | detachActive taken wrappers inRange => exact wf.detach taken wrappers inRange
  | close => exact wf
  | activate inside => exact ⟨.inr inside, wf.nodup, wf.known, wf.representable⟩
  | setOpener taken known _ => exact wf.setOpener taken known

end ChromiumIos.WebStateList
