import ChromiumIos.WebStateList.Invariant

/-!
# The operations as sequences of effects

For each operation one lemma computes its result on a well formed list.  An
insertion, a move, a replacement, an activation and the recording of an opener
always return when their preconditions hold.  A removal chooses the new active
index before the element is erased; it returns exactly when that choice is
inside the list that is left.
-/

namespace ChromiumIos.WebStateList

open Lib

variable {W : Type} [DecidableEq W]
variable {OwnOpener : Prop}
variable {list after : WebStateList W} {notifications : List (Notification W)}

theorem notifyIfActiveWebStateChanged_eq_some_iff (old : Option W) (reason : ChangeReason) :
    list.notifyIfActiveWebStateChanged old reason = some notifications ↔
      list.ActiveInRange ∧
        notifications = activation old list.activeWebState list.activeIndex reason := by
  simp only [notifyIfActiveWebStateChanged, activation]
  constructor
  · intro returned
    obtain ⟨new, read, returned⟩ := Option.bind_eq_some_iff.mp returned
    grind [getActiveWebState_eq_some_iff]
  · grind [getActiveWebState_eq]

/-! ## Activation and openers -/

variable {index : Int} {opener : WebStateOpener W} {wrapper : WebStateWrapper W}
variable {lastCommitted : W → Int} {insertionFlags closeFlags : Flags} {webState detached : W}

theorem activateWebStateAt_eq (inRange : list.ActiveInRange) (inside : list.ContainsIndex index) :
    list.activateWebStateAt index = some ({ list with activeIndex := index },
      activation list.activeWebState (at? list.webStates index) index .userAction) := by
  have notified : notifyIfActiveWebStateChanged { list with activeIndex := index }
      list.activeWebState .userAction = some _ :=
    (notifyIfActiveWebStateChanged_eq_some_iff list.activeWebState .userAction).mpr
      ⟨.inr inside, rfl⟩
  simp only [activateWebStateAt]
  rw [dcheck_of inside, getActiveWebState_eq inRange]
  simp only [Option.bind_eq_bind, Option.bind_some, notified]
  rfl

theorem setOpenerOfWebStateAt_eq {opening : W}
    (taken : at? list.webStateWrappers index = some wrapper)
    (recorded : opener.opener = some opening) (member : opening ∈ list.webStates) :
    list.setOpenerOfWebStateAt index opener =
      some (list.withOpener index wrapper.webState opener) := by
  have inside := (containsIndex_iff list index).mpr ⟨wrapper, taken⟩
  have openerInside := (containsIndex_getIndexOfWebState_iff list opening).mpr member
  simp [setOpenerOfWebStateAt, withOpener, recorded, inside, openerInside, taken]

/-- Recording an opener that is in the list changes one wrapper and reports nothing. -/
theorem step_setOpener_eq
    (admissible : list.Admissible ⟨lastCommitted, .setOpenerOfWebStateAt index opener⟩) :
    ∃ wrapper, at? list.webStateWrappers index = some wrapper ∧
      (∀ opening ∈ opener.opener, opening ∈ list.webStates) ∧
      list.step ⟨lastCommitted, .setOpenerOfWebStateAt index opener⟩ =
        some (list.withOpener index wrapper.webState opener, []) := by
  obtain ⟨inside, _, recorded, member⟩ := admissible
  obtain ⟨wrapper, taken⟩ := (containsIndex_iff list index).mp inside
  refine ⟨wrapper, taken, ?_, ?_⟩
  · intro other same
    exact Option.some.inj (recorded.symm.trans same) ▸ member
  · simp [step, setOpenerOfWebStateAt_eq taken recorded member]

/-! ## Insertion -/

omit [DecidableEq W] in
theorem nthOpenedByLoop_lt (opened : WebStateWrapper W → Bool) (wrappers : List (WebStateWrapper W))
    {found bound : Int} {n : Nat} (foundInside : found < bound)
    (inside : index + wrappers.length ≤ bound) :
    nthOpenedByLoop opened wrappers index n found < bound := by
  induction wrappers generalizing index n found with
  | nil => exact foundInside
  | cons _ _ _ =>
    cases n <;> grind [nthOpenedByLoop]

theorem getIndexOfNthWebStateOpenedBy_lt (lastCommitted : W → Int) (list : WebStateList W)
    (opener : Option W) (startIndex : Int) (useGroup : Bool) (n : Nat) :
    list.getIndexOfNthWebStateOpenedBy lastCommitted opener startIndex useGroup n <
      max 0 list.count := by
  have invalid : kInvalidIndex < max 0 list.count := by
    simp only [kInvalidIndex]
    omega
  simp only [getIndexOfNthWebStateOpenedBy]
  cases opener with
  | none => exact invalid
  | some opener =>
    dsimp only
    split
    · exact invalid
    · rename_i searched
      apply nthOpenedByLoop_lt _ _ invalid
      grind [count, ContainsIndex]

theorem determineInsertionIndex_isSome (lastCommitted : W → Int) {opener : Option W}
    (known : ∀ opening ∈ opener, opening ∈ list.webStates) (room : list.count < intMax) :
    ∃ index, list.determineInsertionIndex lastCommitted opener = some index := by
  cases opener with
  | none => exact ⟨_, rfl⟩
  | some opening =>
    have inside := (containsIndex_getIndexOfWebState_iff list opening).mpr (known opening rfl)
    have child := getIndexOfNthWebStateOpenedBy_lt lastCommitted list (some opening)
      (list.getIndexOfWebState (some opening)) true intMax.toNat
    have valid := getIndexOfWebState_ne_invalid (known opening rfl)
    have bounded : (if list.getIndexOfLastWebStateOpenedBy lastCommitted (some opening)
        (list.getIndexOfWebState (some opening)) true ≠ kInvalidIndex then
      list.getIndexOfLastWebStateOpenedBy lastCommitted (some opening)
        (list.getIndexOfWebState (some opening)) true
      else list.getIndexOfWebState (some opening)) < intMax := by
      unfold getIndexOfLastWebStateOpenedBy ContainsIndex at *
      split <;> omega
    unfold determineInsertionIndex
    dsimp only
    rw [dcheck_of valid, dcheck_of bounded]
    exact ⟨_, rfl⟩

omit [DecidableEq W] in
theorem insertionOpener_spec (lastCommitted : W → Int) (inRange : list.ActiveInRange)
    (known : ¬ isFlagSet insertionFlags insertInheritOpener →
      ∀ opening ∈ opener.opener, opening ∈ list.webStates) :
    ∃ chosen, list.insertionOpener lastCommitted insertionFlags opener = some chosen ∧
      ∀ opening ∈ chosen.opener, opening ∈ list.webStates := by
  simp only [insertionOpener]
  split
  · rw [getActiveWebState_eq inRange]
    exact ⟨_, rfl, fun opening active => mem_of_at? active⟩
  · grind

theorem insertionIndex_spec (lastCommitted : W → Int) (room : list.count < intMax)
    (known : ∀ opening ∈ opener.opener, opening ∈ list.webStates)
    (forced : isFlagSet insertionFlags insertForceIndex → 0 ≤ index ∧ index ≤ list.count) :
    ∃ chosen, list.insertionIndex lastCommitted index insertionFlags opener = some chosen ∧
      0 ≤ chosen ∧ chosen ≤ list.count := by
  simp only [insertionIndex]
  split
  · grind
  · obtain ⟨proposed, determined⟩ := determineInsertionIndex_isSome lastCommitted known room
    rw [determined]
    grind [count]

omit [DecidableEq W] in
theorem activeWebState_withNew (nonneg : 0 ≤ index) (inside : index ≤ list.count) (webState : W)
    (opener : WebStateOpener W) :
    (list.withNew index webState opener).activeWebState = list.activeWebState := by
  grind [activeWebState, withNew, webStates_withNew, length_webStates, at?_insertAt_insertShift]

omit [DecidableEq W] in
theorem at?_webStates_withNew (nonneg : 0 ≤ index) (inside : index ≤ list.count) (webState : W)
    (opener : WebStateOpener W) :
    at? (list.withNew index webState opener).webStates index = some webState := by
  rw [webStates_withNew]
  exact at?_insertAt_self webState nonneg (by rw [length_webStates]; exact inside)

/-- Recording the opener after the insertion is inserting with that opener. -/
theorem recordOpener_withInserted (nonneg : 0 ≤ index) (inside : index ≤ list.count)
    (known : ∀ opening ∈ opener.opener, opening ∈ list.webStates) :
    (list.withInserted index webState).recordOpener index opener =
      some (list.withNew index webState (if opener.opener.isSome then opener else .null)) := by
  simp only [recordOpener]
  split
  · rename_i present
    obtain ⟨opening, recorded⟩ := Option.isSome_iff_exists.mp present
    have taken : at? (list.withInserted index webState).webStateWrappers index =
        some ⟨webState, .null⟩ := at?_insertAt_self _ nonneg inside
    have member : opening ∈ (list.withInserted index webState).webStates := by
      change opening ∈ (list.withNew index webState .null).webStates
      grind [webStates_withNew, mem_insertAt, length_webStates]
    rw [setOpenerOfWebStateAt_eq taken recorded member]
    simp only [withOpener, withInserted, withNew]
    rw [setAt_insertAt _ _ nonneg inside]
    rfl
  · rfl

/-- An insertion whose opener and index have been chosen, the opener being in the list. -/
theorem insertWebState_eq {chosen : Int} {chosenOpener : WebStateOpener W} (wf : list.WellFormed)
    (fresh : webState ∉ list.webStates) (room : list.count < intMax)
    (openerRead : list.insertionOpener lastCommitted insertionFlags opener = some chosenOpener)
    (openerKnown : ∀ opening ∈ chosenOpener.opener, opening ∈ list.webStates)
    (indexRead : list.insertionIndex lastCommitted index insertionFlags chosenOpener =
      some chosen) (nonneg : 0 ≤ chosen) (inside : chosen ≤ list.count)
    {recorded : WebStateOpener W}
    (recorded_eq : (if chosenOpener.opener.isSome then chosenOpener else .null) = recorded) :
    (∀ opening ∈ recorded.opener, opening ∈ list.webStates) ∧
      list.insertWebState lastCommitted index webState insertionFlags opener =
        some (if isFlagSet insertionFlags insertActivate then
          ({ list.withNew chosen webState recorded with activeIndex := chosen },
            [.insertedAt webState chosen true,
              .activatedAt list.activeWebState (some webState) chosen .userAction])
        else (list.withNew chosen webState recorded, [.insertedAt webState chosen false])) := by
  have valid : list.ContainsIndex chosen ∨ chosen = list.count := by
    simp only [ContainsIndex]
    omega
  have recordedKnown : ∀ opening ∈ recorded.opener, opening ∈ list.webStates := by
    grind [WebStateOpener.null]
  refine ⟨recordedKnown, ?_⟩
  have new := wf.insert nonneg inside room fresh recordedKnown
  simp only [insertWebState]
  simp only [openerRead, indexRead, dcheck_of valid, Option.bind_eq_bind, Option.bind_some,
    recordOpener_withInserted nonneg inside openerKnown, recorded_eq]
  cases isFlagSet insertionFlags insertActivate with
  | true =>
    have found := at?_webStates_withNew nonneg inside webState recorded
    have contained : (list.withNew chosen webState recorded).ContainsIndex chosen :=
      (containsIndex_iff_webStates _ chosen).mpr ⟨webState, found⟩
    have distinct : list.activeWebState ≠ some webState :=
      fun same => fresh (mem_of_at? same)
    simp [activateWebStateAt_eq new.active contained, activeWebState_withNew nonneg inside, found,
      activation, if_neg distinct]
  | false => rfl

/--
An insertion puts the WebState at some index inside the list, with an opener of
the list, and then activates it when asked to.
-/
theorem insertWebState_spec (lastCommitted : W → Int) (wf : list.WellFormed)
    (fresh : webState ∉ list.webStates) (room : list.count < intMax)
    (forced : isFlagSet insertionFlags insertForceIndex → 0 ≤ index ∧ index ≤ list.count)
    (known : ¬ isFlagSet insertionFlags insertInheritOpener →
      ∀ opening ∈ opener.opener, opening ∈ list.webStates) :
    ∃ chosen recorded, 0 ≤ chosen ∧ chosen ≤ list.count ∧
      (∀ opening ∈ recorded.opener, opening ∈ list.webStates) ∧
      list.insertWebState lastCommitted index webState insertionFlags opener =
        some (if isFlagSet insertionFlags insertActivate then
          ({ list.withNew chosen webState recorded with activeIndex := chosen },
            [.insertedAt webState chosen true,
              .activatedAt list.activeWebState (some webState) chosen .userAction])
        else (list.withNew chosen webState recorded, [.insertedAt webState chosen false])) := by
  obtain ⟨_, openerRead, openerKnown⟩ :=
    insertionOpener_spec lastCommitted wf.active known
  obtain ⟨chosen, indexRead, nonneg, inside⟩ :=
    insertionIndex_spec lastCommitted room openerKnown forced
  exact ⟨chosen, _, nonneg, inside,
    insertWebState_eq wf fresh room openerRead openerKnown indexRead nonneg inside rfl⟩

/-! ## Moving and replacing -/

omit [DecidableEq W] in
theorem moveWebStateAt_eq {source target : Int}
    (taken : at? list.webStateWrappers source = some wrapper) (inside : list.ContainsIndex target) :
    list.moveWebStateAt source target =
      some (if source = target then (list, [])
        else (list.withMoved source target wrapper, [.moved wrapper.webState source target])) := by
  have sourceInside := (containsIndex_iff list source).mpr ⟨wrapper, taken⟩
  simp only [moveWebStateAt]
  rw [dcheck_of sourceInside, dcheck_of inside, taken]
  split <;> rfl

theorem replaceWebStateAt_eq (wf : list.WellFormed)
    (taken : at? list.webStateWrappers index = some wrapper) (fresh : webState ∉ list.webStates) :
    list.replaceWebStateAt index webState =
      some (list.withReplaced index wrapper.webState webState,
        [.replacedAt wrapper.webState webState index,
          .activatedAt (some wrapper.webState)
            (list.withReplaced index wrapper.webState webState).activeWebState
            list.activeIndex .replaced]) := by
  have inside := (containsIndex_iff list index).mpr ⟨wrapper, taken⟩
  have takenState := at?_webStates_of_taken taken
  have different : webState ≠ wrapper.webState := by
    rintro rfl
    exact fresh (webState_mem taken)
  have replaced := wf.replace taken fresh
  have notified : (list.withReplaced index wrapper.webState
      webState).notifyIfActiveWebStateChanged (some wrapper.webState) .replaced = some _ :=
    (notifyIfActiveWebStateChanged_eq_some_iff (some wrapper.webState) .replaced).mpr
      ⟨replaced.active, rfl⟩
  have gone : some wrapper.webState ≠
      (list.withReplaced index wrapper.webState webState).activeWebState := by
    intro same
    have remaining := mem_of_at? same.symm
    grind [webStates_withReplaced, not_mem_setAt, wf.nodup]
  rw [activation, if_neg gone] at notified
  simp only [replaceWebStateAt]
  rw [dcheck_of inside, getWebStateAt_eq, takenState]
  simp only [Option.bind_eq_bind, Option.bind_some, dcheck_of different]
  exact congrArg (fun result => Option.bind result _) notified

/-! ## Detaching and closing -/

theorem determineNewActiveIndex_isSome (lastCommitted : W → Int)
    (taken : at? list.webStateWrappers index = some wrapper) :
    ∃ newActiveIndex, list.determineNewActiveIndex lastCommitted index = some newActiveIndex := by
  have inside := (containsIndex_iff list index).mpr ⟨wrapper, taken⟩
  simp only [determineNewActiveIndex, getWebStateAt, getOpenerOfWebStateAt]
  rw [dcheck_of inside, taken]
  simp only [Option.bind_eq_bind, Option.bind_some, Option.map_some]
  split_ifs <;> exact ⟨_, rfl⟩

/-- Detaching a WebState that is not active reports the removal only. -/
theorem detachWebStateAt_inactive (lastCommitted : W → Int)
    (taken : at? list.webStateWrappers index = some wrapper) (inactive : list.activeIndex ≠ index) :
    list.detachWebStateAt lastCommitted index = some (wrapper.webState,
      ⟨eraseAt (list.clearOpenersReferencing wrapper.webState) index,
        eraseShift index list.activeIndex⟩,
      [.willDetachAt wrapper.webState index, .detachedAt wrapper.webState index]) := by
  have inside := (containsIndex_iff list index).mpr ⟨wrapper, taken⟩
  obtain ⟨newActiveIndex, determined⟩ := determineNewActiveIndex_isSome lastCommitted taken
  have same : list.withDetached index wrapper.webState newActiveIndex =
      ⟨eraseAt (list.clearOpenersReferencing wrapper.webState) index,
        eraseShift index list.activeIndex⟩ := by
    simp only [withDetached, eraseShift, if_neg inactive]
  simp only [detachWebStateAt, getWebStateAt]
  rw [dcheck_of inside, determined, taken]
  simp only [Option.bind_eq_bind, Option.bind_some, Option.map_some, same,
    notifyIfActiveWasClosed, decide_eq_true_eq, if_neg (Ne.symm inactive)]
  rfl

/--
Detaching the active WebState returns exactly when the index chosen for the new
active WebState is invalid or inside the list that is left.
-/
theorem detachWebStateAt_active_iff (lastCommitted : W → Int) {newActiveIndex : Int}
    (wf : list.WellFormed) (taken : at? list.webStateWrappers list.activeIndex = some wrapper)
    (determined :
      list.determineNewActiveIndex lastCommitted list.activeIndex = some newActiveIndex) :
    list.detachWebStateAt lastCommitted list.activeIndex =
        some (detached, after, notifications) ↔
      after.ActiveInRange ∧ detached = wrapper.webState ∧
        after = ⟨eraseAt (list.clearOpenersReferencing wrapper.webState) list.activeIndex,
          newActiveIndex⟩ ∧
        notifications =
          [.willDetachAt wrapper.webState list.activeIndex,
            .detachedAt wrapper.webState list.activeIndex,
            .activatedAt (some wrapper.webState) after.activeWebState newActiveIndex .none] := by
  have inside := (containsIndex_iff list list.activeIndex).mpr ⟨wrapper, taken⟩
  have takenState := at?_webStates_of_taken taken
  have same : list.withDetached list.activeIndex wrapper.webState newActiveIndex =
      ⟨eraseAt (list.clearOpenersReferencing wrapper.webState) list.activeIndex,
        newActiveIndex⟩ := by
    simp [withDetached]
  have gone : some wrapper.webState ≠
      (WebStateList.mk (eraseAt (list.clearOpenersReferencing wrapper.webState) list.activeIndex)
        newActiveIndex).activeWebState := by
    intro same
    have remaining := mem_of_at? same.symm
    rw [webStates_eraseAt] at remaining
    exact not_mem_eraseAt wf.nodup takenState remaining
  simp only [detachWebStateAt, getWebStateAt]
  rw [dcheck_of inside, determined, taken]
  simp only [Option.bind_eq_bind, Option.bind_some, Option.map_some, same,
    notifyIfActiveWasClosed, decide_true, if_true]
  constructor
  · intro returned
    obtain ⟨reported, notified, returned⟩ := Option.bind_eq_some_iff.mp returned
    obtain ⟨inRange, rfl⟩ := (notifyIfActiveWebStateChanged_eq_some_iff _ _).mp notified
    rw [activation, if_neg gone] at returned
    cases returned
    grind
  · rintro ⟨inRange, rfl, rfl, rfl⟩
    rw [(notifyIfActiveWebStateChanged_eq_some_iff _ _).mpr ⟨inRange, rfl⟩, activation,
      if_neg gone]
    rfl

/-- A detachment that returns erases the WebState, and reports a new active one if it was active. -/
theorem detachWebStateAt_cases (wf : list.WellFormed) (inside : list.ContainsIndex index)
    (returned : list.detachWebStateAt lastCommitted index = some (detached, after, notifications)) :
    ∃ wrapper, at? list.webStateWrappers index = some wrapper ∧ detached = wrapper.webState ∧
      ((list.activeIndex = index ∧ after.ActiveInRange ∧
        ∃ newActiveIndex,
          after = ⟨eraseAt (list.clearOpenersReferencing wrapper.webState) index,
            newActiveIndex⟩ ∧
          notifications =
            [.willDetachAt wrapper.webState index, .detachedAt wrapper.webState index,
              .activatedAt (some wrapper.webState) after.activeWebState newActiveIndex .none]) ∨
      (list.activeIndex ≠ index ∧
        after = ⟨eraseAt (list.clearOpenersReferencing wrapper.webState) index,
          eraseShift index list.activeIndex⟩ ∧
        notifications =
          [.willDetachAt wrapper.webState index, .detachedAt wrapper.webState index])) := by
  obtain ⟨wrapper, taken⟩ := (containsIndex_iff list index).mp inside
  by_cases active : list.activeIndex = index
  · subst active
    obtain ⟨newActiveIndex, determined⟩ := determineNewActiveIndex_isSome lastCommitted taken
    obtain ⟨inRange, rfl, left, reported⟩ :=
      (detachWebStateAt_active_iff lastCommitted wf taken determined).mp returned
    grind
  · grind [detachWebStateAt_inactive]

/-- A detachment that returns is one effect. -/
theorem detachWebStateAt_effect (OwnOpener : Prop) (wf : list.WellFormed)
    (inside : list.ContainsIndex index)
    (returned : list.detachWebStateAt lastCommitted index = some (detached, after, notifications)) :
    Effect OwnOpener list notifications after ∧ detached ∉ after.webStates ∧
      after.webStates = eraseAt list.webStates index := by
  obtain ⟨_, taken, rfl, removed⟩ := detachWebStateAt_cases wf inside returned
  have erased := not_mem_eraseAt wf.nodup (at?_webStates_of_taken taken)
  rcases removed with ⟨rfl, inRange, newActiveIndex, rfl, rfl⟩ | ⟨inactive, rfl, rfl⟩
  · refine ⟨.detachActive taken rfl inRange, ?_, webStates_eraseAt ..⟩
    rw [webStates_eraseAt]
    exact erased
  · refine ⟨.detachInactive taken inactive, ?_, webStates_eraseAt ..⟩
    rw [webStates_eraseAt]
    exact erased

theorem closeWebStateAt_eq_some_iff :
    list.closeWebStateAt lastCommitted index closeFlags = some (after, notifications) ↔
      ∃ detached earlier,
        list.detachWebStateAt lastCommitted index = some (detached, after, earlier) ∧
        notifications =
          earlier ++ [.willCloseAt detached index (isFlagSet closeFlags closeUserAction)] := by
  simp only [closeWebStateAt]
  constructor
  · intro returned
    obtain ⟨⟨detached, left, earlier⟩, removed, returned⟩ := Option.bind_eq_some_iff.mp returned
    grind
  · grind

theorem closeWebStateAt_chain (OwnOpener : Prop) (wf : list.WellFormed)
    (inside : list.ContainsIndex index)
    (returned : list.closeWebStateAt lastCommitted index closeFlags = some (after, notifications)) :
    Chain (Effect OwnOpener) list notifications after := by
  obtain ⟨_, _, removed, rfl⟩ := closeWebStateAt_eq_some_iff.mp returned
  obtain ⟨effect, gone, _⟩ := detachWebStateAt_effect OwnOpener wf inside removed
  exact .head effect (.single (.close index _ gone))

omit [DecidableEq W] in
theorem containsIndex_last (nonempty : list.webStateWrappers.isEmpty = false) :
    list.ContainsIndex (list.count - 1) := by
  have positive : 0 < list.webStateWrappers.length := by
    grind
  simp only [ContainsIndex, count]
  omega

variable {bound : Nat}

theorem closeAllLoop_succ (returned :
      closeAllLoop lastCommitted closeFlags (bound + 1) list = some (after, notifications)) :
    list.webStateWrappers.isEmpty = true ∧ list = after ∧ notifications = [] ∨
    ∃ closed first more, list.webStateWrappers.isEmpty = false ∧
      list.closeWebStateAt lastCommitted (list.count - 1) closeFlags = some (closed, first) ∧
      closeAllLoop lastCommitted closeFlags bound closed = some (after, more) ∧
      notifications = first ++ more := by
  unfold closeAllLoop at returned
  cases nonempty : list.webStateWrappers.isEmpty with
  | true =>
    grind
  | false =>
    rw [nonempty] at returned
    obtain ⟨⟨closed, first⟩, closedOne, returned⟩ := Option.bind_eq_some_iff.mp returned
    obtain ⟨⟨last, more⟩, closedRest, returned⟩ := Option.bind_eq_some_iff.mp returned
    grind

theorem closeAllLoop_chain (wf : list.WellFormed)
    (returned : closeAllLoop lastCommitted closeFlags bound list = some (after, notifications)) :
    Chain (Effect OwnOpener) list notifications after := by
  induction bound generalizing list notifications with
  | zero =>
    cases returned
    exact .refl _
  | succ _ ih =>
    rcases closeAllLoop_succ returned with ⟨-, rfl, rfl⟩ |
      ⟨closed, first, more, nonempty, closedOne, closedRest, rfl⟩
    · exact .refl _
    · have one := closeWebStateAt_chain OwnOpener wf
        (containsIndex_last nonempty) closedOne
      exact one.trans (ih (one.invariant wf Effect.wellFormed) closedRest)

/-! ## One step -/

variable {input : Input W}

/-- Every admissible step that returns is a sequence of effects. -/
theorem step_chain (wf : list.WellFormed) (admissible : list.Admissible input)
    (stepped : list.step input = some (after, notifications)) :
    Chain (Effect (list.MakesOwnOpener input)) list notifications after := by
  obtain ⟨lastCommitted, operation⟩ := input
  cases operation with
  | insertWebState _ webState insertionFlags _ =>
    obtain ⟨fresh, room, forced, known⟩ := admissible
    obtain ⟨chosen, recorded, nonneg, inside, recordedKnown, inserted⟩ :=
      insertWebState_spec lastCommitted wf fresh room forced known
    have result := Option.some.inj (inserted.symm.trans stepped)
    cases activating : isFlagSet insertionFlags insertActivate with
    | false =>
      rw [activating] at result
      cases result
      exact .single (.insert false nonneg inside room fresh recordedKnown)
    | true =>
      rw [activating] at result
      cases result
      have found := at?_webStates_withNew nonneg inside webState recorded
      have contained : (list.withNew chosen webState recorded).ContainsIndex chosen :=
        (containsIndex_iff_webStates _ chosen).mpr ⟨webState, found⟩
      have distinct : list.activeWebState ≠ some webState :=
        fun same => fresh (mem_of_at? same)
      have activated : Effect False _ _ _ := .activate contained
      rw [activeWebState_withNew nonneg inside, found, activation, if_neg distinct] at activated
      exact .head (.insert true nonneg inside room fresh recordedKnown) (.single activated)
  | moveWebStateAt source _ =>
    obtain ⟨wrapper, taken⟩ := (containsIndex_iff list source).mp admissible.1
    have result := Option.some.inj ((moveWebStateAt_eq taken admissible.2).symm.trans stepped)
    split at result
    · cases result
      exact .refl list
    · cases result
      exact .single (.move taken admissible.2)
  | replaceWebStateAt index _ =>
    obtain ⟨wrapper, taken⟩ := (containsIndex_iff list index).mp admissible.1
    have result := Option.some.inj
      ((replaceWebStateAt_eq wf taken admissible.2).symm.trans stepped)
    cases result
    exact .single (.replace taken admissible.2)
  | detachWebStateAt _ =>
    obtain ⟨⟨_, _, _⟩, removed, result⟩ := Option.map_eq_some_iff.mp stepped
    cases result
    exact .single (detachWebStateAt_effect _ wf admissible removed).1
  | closeWebStateAt _ _ => exact closeWebStateAt_chain _ wf admissible stepped
  | closeAllWebStates _ => exact closeAllLoop_chain wf stepped
  | activateWebStateAt _ =>
    have result := Option.some.inj
      ((activateWebStateAt_eq wf.active admissible).symm.trans stepped)
    cases result
    exact .single (.activate admissible)
  | setOpenerOfWebStateAt _ _ =>
    obtain ⟨_, taken, known, recorded⟩ := step_setOpener_eq admissible
    cases Option.some.inj (recorded.symm.trans stepped)
    refine .single (.setOpener taken known ?_)
    simp [MakesOwnOpener, getWebStateAt, taken]

theorem step_wellFormed (wf : list.WellFormed) (admissible : list.Admissible input)
    (stepped : list.step input = some (after, notifications)) : after.WellFormed :=
  (step_chain wf admissible stepped).invariant wf Effect.wellFormed

omit [DecidableEq W] in
theorem empty_wellFormed : (empty : WebStateList W).WellFormed where
  active := .inl rfl
  nodup := List.nodup_nil
  known := fun _ impossible => absurd impossible List.not_mem_nil
  representable := show (0 : Int) ≤ intMax by decide

theorem Run.wellFormed (run : Run notifications list) : list.WellFormed :=
  Runs.invariant _ run empty_wellFormed step_wellFormed

end ChromiumIos.WebStateList
