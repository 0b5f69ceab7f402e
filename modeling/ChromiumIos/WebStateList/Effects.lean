import ChromiumIos.WebStateList.Operations

/-!
# What the operations do to a list

Every operation is a short sequence of effects.  An effect says once, without
the assertions and the searches of the code, how the wrappers and the active
index change and what the observers are told; the results about runs are
proved by cases on the effects.
-/

namespace ChromiumIos.WebStateList

open Lib

variable {W : Type}
variable (list : WebStateList W) (index : Int)

def activeWebState : Option W :=
  at? list.webStates list.activeIndex

def ActiveInRange : Prop :=
  list.activeIndex = kInvalidIndex ∨ list.ContainsIndex list.activeIndex

/-- The invariant of the lists that runs reach. -/
structure WellFormed (list : WebStateList W) : Prop where
  active : list.ActiveInRange
  nodup : list.webStates.Nodup
  known : ∀ wrapper ∈ list.webStateWrappers, ∀ opening ∈ wrapper.opener.opener,
    opening ∈ list.webStates
  representable : list.count ≤ intMax

def NoOwnOpener : Prop :=
  ∀ wrapper ∈ list.webStateWrappers, wrapper.opener.opener ≠ some wrapper.webState

/-! ## The lists the effects leave -/

def withNew (index : Int) (webState : W) (opener : WebStateOpener W) : WebStateList W :=
  ⟨insertAt list.webStateWrappers index ⟨webState, opener⟩, insertShift index list.activeIndex⟩

def withMoved (source target : Int) (wrapper : WebStateWrapper W) : WebStateList W :=
  ⟨insertAt (eraseAt list.webStateWrappers source) target wrapper,
    moveShift source target list.activeIndex⟩

def withOpener (index : Int) (webState : W) (opener : WebStateOpener W) : WebStateList W :=
  { list with webStateWrappers := setAt list.webStateWrappers index ⟨webState, opener⟩ }

/-! ## Reading a list -/

@[simp]
theorem webStates_mk (wrappers : List (WebStateWrapper W)) (activeIndex : Int) :
    webStates ⟨wrappers, activeIndex⟩ = wrappers.map WebStateWrapper.webState := rfl

@[simp]
theorem length_webStates : (list.webStates.length : Int) = list.count := by
  simp [webStates, count]

@[simp]
theorem at?_kInvalidIndex {α : Type} (values : List α) : at? values kInvalidIndex = none := rfl

theorem containsIndex_iff :
    list.ContainsIndex index ↔ ∃ wrapper, at? list.webStateWrappers index = some wrapper := by
  rw [← Option.isSome_iff_exists, at?_isSome_iff]
  exact Iff.rfl

theorem at?_webStates :
    at? list.webStates index = (at? list.webStateWrappers index).map WebStateWrapper.webState :=
  at?_map ..

variable {index : Int} {list : WebStateList W} {wrapper : WebStateWrapper W} {webState : W}

theorem at?_webStates_of_taken (taken : at? list.webStateWrappers index = some wrapper) :
    at? list.webStates index = some wrapper.webState := by
  simp [taken, at?_webStates]

theorem containsIndex_iff_webStates (list : WebStateList W) (index : Int) :
    list.ContainsIndex index ↔ ∃ webState, at? list.webStates index = some webState := by
  rw [← Option.isSome_iff_exists, at?_isSome_iff, length_webStates]
  exact Iff.rfl

theorem getWebStateAt_eq (list : WebStateList W) (index : Int) :
    list.getWebStateAt index = at? list.webStates index :=
  (at?_webStates list index).symm

theorem webState_mem (taken : at? list.webStateWrappers index = some wrapper) :
    wrapper.webState ∈ list.webStates :=
  List.mem_map_of_mem (mem_of_at? taken)

theorem getActiveWebState_eq_some_iff (list : WebStateList W) (webState : Option W) :
    list.getActiveWebState = some webState ↔
      list.ActiveInRange ∧ webState = list.activeWebState := by
  simp only [getActiveWebState, ActiveInRange, activeWebState]
  by_cases invalid : list.activeIndex = kInvalidIndex
  · simp [invalid, eq_comm]
  · rw [if_pos invalid, getWebStateAt_eq]
    simp only [invalid, false_or, containsIndex_iff, at?_webStates]
    cases at? list.webStateWrappers list.activeIndex <;> simp [eq_comm]

theorem getActiveWebState_eq (inRange : list.ActiveInRange) :
    list.getActiveWebState = some list.activeWebState :=
  (getActiveWebState_eq_some_iff list _).mpr ⟨inRange, rfl⟩

variable [DecidableEq W]

theorem getIndexOfWebState_eq (list : WebStateList W) (webState : W) :
    list.getIndexOfWebState (some webState) =
      if webState ∈ list.webStates then (list.webStates.idxOf webState : Int)
      else kInvalidIndex := by
  unfold getIndexOfWebState webStates
  have same : (fun wrapper : WebStateWrapper W => some wrapper.webState == some webState) =
      (fun element => element == webState) ∘ WebStateWrapper.webState := by
    funext wrapper
    simp
  rw [same, ← List.findIdx?_map, List.findIdx?_eq_guard_findIdx_lt]
  by_cases member : webState ∈ list.webStateWrappers.map WebStateWrapper.webState
  · have inside := List.idxOf_lt_length_of_mem member
    rw [if_pos member]
    simp only [List.idxOf] at inside ⊢
    grind
  · grind

theorem at?_getIndexOfWebState (member : webState ∈ list.webStates) :
    at? list.webStates (list.getIndexOfWebState (some webState)) = some webState := by
  simp [getIndexOfWebState_eq, member]

theorem containsIndex_getIndexOfWebState_iff (list : WebStateList W) (webState : W) :
    list.ContainsIndex (list.getIndexOfWebState (some webState)) ↔ webState ∈ list.webStates := by
  constructor
  · intro inside
    by_contra absent
    rw [getIndexOfWebState_eq, if_neg absent] at inside
    exact absurd inside.1 (by decide)
  · grind [at?_getIndexOfWebState, at?_webStates, Option.map_eq_some_iff, containsIndex_iff]

theorem getIndexOfWebState_ne_invalid (member : webState ∈ list.webStates) :
    list.getIndexOfWebState (some webState) ≠ kInvalidIndex := by
  intro same
  have inside := (containsIndex_getIndexOfWebState_iff list webState).mpr member
  rw [same] at inside
  exact absurd inside.1 (by decide)

/-! ## Effects -/

def activation (old new : Option W) (activeIndex : Int) (reason : ChangeReason) :
    List (Notification W) :=
  if old = new then [] else [.activatedAt old new activeIndex reason]

def withReplaced (list : WebStateList W) (index : Int) (old new : W) : WebStateList W :=
  { list with
    webStateWrappers := setAt (list.clearOpenersReferencing old) index ⟨new, .null⟩ }

/--
One change of the list with what is reported about it.  `OwnOpener` says
whether a WebState may be recorded as its own opener.
-/
inductive Effect (OwnOpener : Prop) :
    WebStateList W → List (Notification W) → WebStateList W → Prop where
  | insert {list : WebStateList W} {index : Int} {webState : W} {opener : WebStateOpener W}
      (activating : Bool) (nonneg : 0 ≤ index) (inside : index ≤ list.count)
      (room : list.count < intMax) (fresh : webState ∉ list.webStates)
      (known : ∀ opening ∈ opener.opener, opening ∈ list.webStates) :
      Effect OwnOpener list [.insertedAt webState index activating]
        (list.withNew index webState opener)
  | move {list : WebStateList W} {source target : Int} {wrapper : WebStateWrapper W}
      (taken : at? list.webStateWrappers source = some wrapper)
      (inside : list.ContainsIndex target) :
      Effect OwnOpener list [.moved wrapper.webState source target]
        (list.withMoved source target wrapper)
  | replace {list : WebStateList W} {index : Int} {wrapper : WebStateWrapper W} {webState : W}
      (taken : at? list.webStateWrappers index = some wrapper)
      (fresh : webState ∉ list.webStates) :
      Effect OwnOpener list
        [.replacedAt wrapper.webState webState index,
          .activatedAt (some wrapper.webState)
            (list.withReplaced index wrapper.webState webState).activeWebState
            list.activeIndex .replaced]
        (list.withReplaced index wrapper.webState webState)
  | detachInactive {list : WebStateList W} {index : Int} {wrapper : WebStateWrapper W}
      (taken : at? list.webStateWrappers index = some wrapper)
      (inactive : list.activeIndex ≠ index) :
      Effect OwnOpener list
        [.willDetachAt wrapper.webState index, .detachedAt wrapper.webState index]
        ⟨eraseAt (list.clearOpenersReferencing wrapper.webState) index,
          eraseShift index list.activeIndex⟩
  | detachActive {list after : WebStateList W} {wrapper : WebStateWrapper W}
      (taken : at? list.webStateWrappers list.activeIndex = some wrapper)
      (wrappers : after.webStateWrappers =
        eraseAt (list.clearOpenersReferencing wrapper.webState) list.activeIndex)
      (inRange : after.ActiveInRange) :
      Effect OwnOpener list
        [.willDetachAt wrapper.webState list.activeIndex,
          .detachedAt wrapper.webState list.activeIndex,
          .activatedAt (some wrapper.webState) after.activeWebState after.activeIndex .none]
        after
  | close {list : WebStateList W} {webState : W} (index : Int) (userAction : Bool)
      (gone : webState ∉ list.webStates) :
      Effect OwnOpener list [.willCloseAt webState index userAction] list
  | activate {list : WebStateList W} {index : Int} (inside : list.ContainsIndex index) :
      Effect OwnOpener list
        (activation list.activeWebState (at? list.webStates index) index .userAction)
        { list with activeIndex := index }
  | setOpener {list : WebStateList W} {index : Int} {wrapper : WebStateWrapper W}
      {opener : WebStateOpener W} (taken : at? list.webStateWrappers index = some wrapper)
      (known : ∀ opening ∈ opener.opener, opening ∈ list.webStates)
      (proper : opener.opener = some wrapper.webState → OwnOpener) :
      Effect OwnOpener list [] (list.withOpener index wrapper.webState opener)

/-! ## The WebStates after an effect -/

omit [DecidableEq W] in
theorem webStates_withNew (list : WebStateList W) (index : Int) (webState : W)
    (opener : WebStateOpener W) :
    (list.withNew index webState opener).webStates = insertAt list.webStates index webState :=
  map_insertAt ..

omit [DecidableEq W] in
theorem webStates_withMoved (list : WebStateList W) (source target : Int)
    (wrapper : WebStateWrapper W) :
    (list.withMoved source target wrapper).webStates =
      insertAt (eraseAt list.webStates source) target wrapper.webState := by
  rw [withMoved, webStates_mk, map_insertAt, map_eraseAt]
  rfl

@[simp]
theorem clearOpener_webState (webState : W) (wrapper : WebStateWrapper W) :
    (clearOpener webState wrapper).webState = wrapper.webState := by
  simp only [clearOpener]
  split <;> rfl

theorem clearOpener_opener_of_mem {opening : W}
    (recorded : opening ∈ (clearOpener webState wrapper).opener.opener) :
    opening ∈ wrapper.opener.opener ∧ opening ≠ webState := by
  unfold clearOpener at recorded
  split at recorded
  · cases recorded
  · rename_i other
    refine ⟨recorded, ?_⟩
    rintro rfl
    exact other recorded

@[simp]
theorem map_webState_clearOpenersReferencing (list : WebStateList W) (webState : W) :
    (list.clearOpenersReferencing webState).map WebStateWrapper.webState = list.webStates := by
  simp only [clearOpenersReferencing, webStates]
  simp

@[simp]
theorem length_clearOpenersReferencing (list : WebStateList W) (webState : W) :
    (list.clearOpenersReferencing webState).length = list.webStateWrappers.length :=
  List.length_map ..

theorem webStates_eraseAt (list : WebStateList W) (index : Int) (webState : W)
    (activeIndex : Int) :
    webStates ⟨eraseAt (list.clearOpenersReferencing webState) index, activeIndex⟩ =
      eraseAt list.webStates index := by
  simp [map_eraseAt]

theorem webStates_erased {after : WebStateList W}
    (wrappers : after.webStateWrappers = eraseAt (list.clearOpenersReferencing webState) index) :
    after.webStates = eraseAt list.webStates index := by
  simp [webStates, wrappers, map_eraseAt]

theorem webStates_withReplaced (list : WebStateList W) (index : Int) (old new : W) :
    (list.withReplaced index old new).webStates = setAt list.webStates index new := by
  simp [withReplaced, webStates, map_setAt]

omit [DecidableEq W] in
theorem webStates_withOpener (taken : at? list.webStateWrappers index = some wrapper)
    (opener : WebStateOpener W) :
    (list.withOpener index wrapper.webState opener).webStates = list.webStates := by
  simpa [webStates, withOpener, map_setAt] using setAt_self (by simp [taken])

end ChromiumIos.WebStateList
