import ChromiumIos.WebStateList.Serialization

/-!
# Restoring a saved list

Saving a list and restoring it into another one appends a copy of the first to
the second: the openers of the copy are the WebStates of the copy at the indices
of the original openers.  Each of the two passes of the restoration has one
lemma that says what it leaves; the first pass appends the new WebStates, and
the second changes openers only, so that what it reads does not depend on how
far it got.
-/

namespace ChromiumIos.WebStateList

open Lib

variable {W C : Type} [DecidableEq W]
variable {list after : WebStateList W} {slim : Bool} {impl : W → WebStateImpl C}

/-! ## What is saved -/

/-- What has to be recorded for an opener: its index in the list and the
navigation index, or nothing if there is no opener. -/
def openerRecord (list : WebStateList W) (opener : WebStateOpener W) : Option (Int × Int) :=
  opener.opener.map fun opening =>
    (list.getIndexOfWebState (some opening), opener.navigationIndex)

theorem writeOpener_spec {opener : WebStateOpener W}
    (known : ∀ opening ∈ opener.opener, opening ∈ list.webStates)
    (userData : SerializableUserData) :
    ∃ written, list.writeOpener opener userData = some written ∧
      storedOpener written = list.openerRecord opener := by
  obtain ⟨recorded, navigationIndex⟩ := opener
  cases recorded with
  | none => exact ⟨_, rfl, rfl⟩
  | some opening =>
    have valid := getIndexOfWebState_ne_invalid (known opening rfl)
    have wrote : list.writeOpener ⟨some opening, navigationIndex⟩ userData =
        some ((userData.addSerializableData (.number (list.getIndexOfWebState (some opening)))
          kOpenerIndexKey).addSerializableData (.number navigationIndex)
            kOpenerNavigationIndexKey) := by
      simp [writeOpener, dcheck_of valid]
    refine ⟨_, wrote, ?_⟩
    rfl

def withOpenerWritten (impl : W → WebStateImpl C) (list : WebStateList W)
    (wrapper : WebStateWrapper W) : WebStateImpl C :=
  { impl wrapper.webState with
    userData := (list.writeOpener wrapper.opener (impl wrapper.webState).userData).getD
      (impl wrapper.webState).userData }

def savedSession (slim : Bool) (impl : W → WebStateImpl C) (list : WebStateList W)
    (wrapper : WebStateWrapper W) : CRWSessionStorage C :=
  (withOpenerWritten impl list wrapper).buildSessionStorage slim

variable {wrapper : WebStateWrapper W} {index oldCount : Int} {window : SessionWindowIOS C}

theorem storedOpener_withOpenerWritten (wf : list.WellFormed)
    (member : wrapper ∈ list.webStateWrappers) :
    storedOpener (withOpenerWritten impl list wrapper).userData =
      list.openerRecord wrapper.opener := by
  obtain ⟨_, wrote, stored⟩ :=
    writeOpener_spec (wf.known wrapper member) (impl wrapper.webState).userData
  rw [withOpenerWritten, wrote]
  exact stored

/-- Each WebState is saved as it was before the loop, because it occurs once. -/
theorem serializeLoop_eq (slim : Bool) {wrappers : List (WebStateWrapper W)}
    (nodup : (wrappers.map WebStateWrapper.webState).Nodup)
    (known : ∀ wrapper ∈ wrappers, ∀ opening ∈ wrapper.opener.opener, opening ∈ list.webStates)
    (impl : W → WebStateImpl C) :
    ∃ impl', serializeLoop slim list wrappers impl =
      some (wrappers.map (savedSession slim impl list), impl') := by
  induction wrappers generalizing impl with
  | nil => exact ⟨impl, rfl⟩
  | cons wrapper rest ih =>
    rw [List.map_cons, List.nodup_cons] at nodup
    obtain ⟨written, wrote, _⟩ := writeOpener_spec (known wrapper List.mem_cons_self)
      (impl wrapper.webState).userData
    have same : withOpenerWritten impl list wrapper =
        { impl wrapper.webState with userData := written } := by
      rw [withOpenerWritten, wrote]
      rfl
    obtain ⟨impl', continued⟩ := ih nodup.2
      (fun other member => known other (List.mem_cons_of_mem _ member))
      (Function.update impl wrapper.webState { impl wrapper.webState with userData := written })
    have unchanged : rest.map (savedSession slim (Function.update impl wrapper.webState
          { impl wrapper.webState with userData := written }) list) =
        rest.map (savedSession slim impl list) := by
      grind [savedSession, withOpenerWritten, List.map_congr_left]
    simp [serializeLoop, savedSession, wrote, continued, unchanged, same]

def savedSelection (list : WebStateList W) : Nat :=
  if list.activeIndex ≠ kInvalidIndex then list.activeIndex.toNat else nsNotFound

omit [DecidableEq W] in
theorem savedSelection_valid (inRange : list.ActiveInRange)
    (selected : list.webStateWrappers = [] ∨ list.activeIndex ≠ kInvalidIndex) :
    IsIndexValidForSessionCount list.savedSelection list.webStateWrappers.length := by
  simp only [IsIndexValidForSessionCount, savedSelection]
  rcases inRange with invalid | inside
  · grind
  · have nonneg := inside.1
    have bound := inside.2
    have valid : list.activeIndex ≠ kInvalidIndex := by
      intro same
      rw [same] at nonneg
      exact absurd nonneg (by decide)
    unfold count at bound
    rw [if_pos valid, if_neg (by omega)]
    omega

theorem serializeWebStateList_eq (slim : Bool) (impl : W → WebStateImpl C) (wf : list.WellFormed)
    (selected : list.webStateWrappers = [] ∨ list.activeIndex ≠ kInvalidIndex) :
    ∃ window impl', serializeWebStateList slim impl list = some (window, impl') ∧
      window.sessions = list.webStateWrappers.map (savedSession slim impl list) ∧
      window.selectedIndex = list.savedSelection := by
  obtain ⟨impl', looped⟩ := serializeLoop_eq slim wf.nodup wf.known impl
  have valid := savedSelection_valid wf.active selected
  rw [← List.length_map (savedSession slim impl list)] at valid
  have made := SessionWindowIOS.initWithSessions_eq_some_iff.mpr
    (show (SessionWindowIOS.mk _ _ valid).sessions = _ ∧ _ from ⟨rfl, rfl⟩)
  refine ⟨⟨_, _, valid⟩, impl', ?_, rfl, rfl⟩
  unfold savedSelection at made
  simp only [serializeWebStateList]
  rw [looped]
  simp only [Option.bind_eq_bind, Option.bind_some, made]
  rfl

/-! ## The first pass of the restoration -/

def createdWrappers (webStateFactory : WebStateFactory W C) :
    List (CRWSessionStorage C) → Nat → List (WebStateWrapper W)
  | [], _ => []
  | session :: rest, call =>
    ⟨(webStateFactory call session).1, .null⟩ ::
      createdWrappers webStateFactory rest (call + 1)

omit [DecidableEq W] in
theorem createdWrappers_getElem? (webStateFactory : WebStateFactory W C)
    (sessions : List (CRWSessionStorage C)) (call position : Nat) :
    (createdWrappers webStateFactory sessions call)[position]? =
      sessions[position]?.map fun session =>
        ⟨(webStateFactory (call + position) session).1, .null⟩ := by
  induction sessions generalizing call position with
  | nil => simp [createdWrappers]
  | cons _ _ ih =>
    cases position with
    | zero => rfl
    | succ _ =>
      rw [createdWrappers, List.getElem?_cons_succ, List.getElem?_cons_succ, ih]
      grind

omit [DecidableEq W] in
@[simp]
theorem length_createdWrappers (webStateFactory : WebStateFactory W C)
    (sessions : List (CRWSessionStorage C)) (call : Nat) :
    (createdWrappers webStateFactory sessions call).length = sessions.length := by
  induction sessions generalizing call with
  | nil => rfl
  | cons _ _ ih => rw [createdWrappers, List.length_cons, List.length_cons, ih]

theorem insertWebState_at_end (lastCommitted : W → Int) (inRange : list.ActiveInRange)
    (webState : W) :
    list.insertWebState lastCommitted list.count webState insertForceIndex .null =
      some (⟨list.webStateWrappers ++ [⟨webState, .null⟩], list.activeIndex⟩,
        [.insertedAt webState list.count false]) := by
  have nonneg : 0 ≤ list.count := Int.natCast_nonneg _
  have before : ¬ list.activeIndex ≥ list.count := by
    rcases inRange with invalid | inside
    · rw [invalid]
      simp only [kInvalidIndex]
      omega
    · exact Int.not_le.mpr inside.2
  have appended : list.withInserted list.count webState =
      ⟨list.webStateWrappers ++ [⟨webState, .null⟩], list.activeIndex⟩ := by
    simp only [withInserted]
    rw [if_neg before, insertAt, count, Int.toNat_natCast, List.insertIdx_length_self]
  simp only [insertWebState]
  have opener : list.insertionOpener lastCommitted insertForceIndex .null =
      some WebStateOpener.null := rfl
  have index : list.insertionIndex lastCommitted list.count insertForceIndex .null =
      some list.count := rfl
  simp only [opener, index, Option.bind_eq_bind, Option.bind_some, or_true, dcheck_of, appended]
  rfl

/--
What a restoration relies on: the factory makes a new WebState on every call,
one that the list does not have, and gives it the stored user data.
-/
structure MakesFresh (webStateFactory : WebStateFactory W C) (list : WebStateList W) : Prop where
  fresh : ∀ call session, (webStateFactory call session).1 ∉ list.webStates
  distinct : ∀ {call call' session session'},
    (webStateFactory call session).1 = (webStateFactory call' session').1 → call = call'
  userData : ∀ call session, (webStateFactory call session).2.userData = session.userData

theorem insertSessionsLoop_eq (lastCommitted : W → Int) (webStateFactory : WebStateFactory W C)
    (distinct : ∀ {call call' session session'},
      (webStateFactory call session).1 = (webStateFactory call' session').1 → call = call')
    (sessions : List (CRWSessionStorage C)) (call : Nat) (inRange : list.ActiveInRange)
    (impl : W → WebStateImpl C) :
    ∃ impl', insertSessionsLoop lastCommitted webStateFactory sessions call (list, impl) =
        some (⟨list.webStateWrappers ++ createdWrappers webStateFactory sessions call,
          list.activeIndex⟩, impl') ∧
      (∀ webState, (∀ later session, call ≤ later →
        (webStateFactory later session).1 ≠ webState) → impl' webState = impl webState) ∧
      ∀ position session, sessions[position]? = some session →
        impl' (webStateFactory (call + position) session).1 =
          (webStateFactory (call + position) session).2 := by
  induction sessions generalizing list call impl with
  | nil =>
    simp [insertSessionsLoop, createdWrappers]
  | cons session _ ih =>
    have extended : ActiveInRange ⟨list.webStateWrappers ++
        [⟨(webStateFactory call session).1, .null⟩], list.activeIndex⟩ := by
      rcases inRange with invalid | inside
      · exact .inl invalid
      · refine .inr ⟨inside.1, Int.lt_of_lt_of_le inside.2 ?_⟩
        grind [count]
    obtain ⟨impl', continued, untouched, made⟩ := ih (call + 1) extended
      (Function.update impl (webStateFactory call session).1 (webStateFactory call session).2)
    refine ⟨impl', ?_, ?_, ?_⟩
    · simp [insertSessionsLoop, createdWrappers, insertWebState_at_end lastCommitted inRange,
        continued]
    · grind
    · grind

/-! ## The second pass of the restoration -/

/-- The opener that the second pass leaves for a WebState. -/
def restoredOpener (impl : W → WebStateImpl C) (oldCount : Int) (webStates : List W)
    (wrapper : WebStateWrapper W) : WebStateOpener W :=
  match storedOpener (impl wrapper.webState).userData with
  | none => wrapper.opener
  | some (openerIndex, openerNavigationIndex) =>
    if openerIndex < 0 then wrapper.opener
    else match at? webStates (oldCount + openerIndex) with
      | some opening => ⟨some opening, openerNavigationIndex⟩
      | none => wrapper.opener

omit [DecidableEq W] in
theorem withOpener_self (taken : at? list.webStateWrappers index = some wrapper) :
    list.withOpener index wrapper.webState wrapper.opener = list := by
  simp only [withOpener]
  rw [setAt_self taken]

theorem restoreOpenerAt_eq (nonneg : 0 ≤ oldCount)
    (taken : at? list.webStateWrappers index = some wrapper) :
    list.restoreOpenerAt impl oldCount index =
      some (list.withOpener index wrapper.webState
        (restoredOpener impl oldCount list.webStates wrapper)) := by
  simp only [restoreOpenerAt, restoredOpener]
  rw [getWebStateAt, taken]
  simp only [Option.map_some, Option.bind_eq_bind, Option.bind_some]
  cases storedOpener (impl wrapper.webState).userData with
  | none => exact congrArg some (withOpener_self taken).symm
  | some stored =>
    obtain ⟨openerIndex, openerNavigationIndex⟩ := stored
    dsimp only
    by_cases negative : openerIndex < 0
    · rw [if_pos negative, if_pos (.inl (by omega))]
      exact congrArg some (withOpener_self taken).symm
    · rw [if_neg negative, Int.add_comm openerIndex oldCount, getWebStateAt_eq]
      cases found : at? list.webStates (oldCount + openerIndex) with
      | none =>
        have outside := (at?_eq_none_iff _ _).mp found
        rw [length_webStates] at outside
        rw [if_pos (by omega)]
        exact congrArg some (withOpener_self taken).symm
      | some opening =>
        have inside := (containsIndex_iff_webStates list _).mpr ⟨opening, found⟩
        have bound := inside.2
        rw [if_neg (by omega)]
        exact setOpenerOfWebStateAt_eq taken rfl (mem_of_at? found)

/-- The second pass changes the openers of the WebStates it visits and nothing else. -/
theorem restoreOpenersLoop_eq (impl : W → WebStateImpl C) (list : WebStateList W) (remaining : Nat)
    (nonneg : 0 ≤ oldCount) (later : oldCount ≤ index) (inside : index + remaining ≤ list.count) :
    ∃ after, restoreOpenersLoop impl oldCount remaining index list = some after ∧
      after.activeIndex = list.activeIndex ∧ after.webStates = list.webStates ∧
      ∀ position, at? after.webStateWrappers position =
        (at? list.webStateWrappers position).map fun wrapper =>
          if index ≤ position ∧ position < index + remaining then
            ⟨wrapper.webState, restoredOpener impl oldCount list.webStates wrapper⟩
          else wrapper := by
  induction remaining generalizing index list with
  | zero =>
    refine ⟨list, rfl, rfl, rfl, ?_⟩
    intro position
    cases at? list.webStateWrappers position <;> grind
  | succ _ ih =>
    obtain ⟨visited, taken⟩ := (containsIndex_iff list index).mp
      ⟨Int.le_trans nonneg later, by omega⟩
    have states := webStates_withOpener taken
      (restoredOpener impl oldCount list.webStates visited)
    have counted : (list.withOpener index visited.webState
        (restoredOpener impl oldCount list.webStates visited)).count = list.count := by
      simp [count, withOpener]
    obtain ⟨after, continued, active, same, rest⟩ := @ih
      (index + 1)
      (list.withOpener index visited.webState
        (restoredOpener impl oldCount list.webStates visited))
      (by omega) (by rw [counted]; omega)
    refine ⟨after, ?_, active, same.trans states, ?_⟩
    · simp [restoreOpenersLoop, restoreOpenerAt_eq nonneg taken, continued]
    · intro position
      by_cases here : position = index
      · subst here
        have bound := ((containsIndex_iff list position).mpr ⟨visited, taken⟩)
        have found : at? (list.withOpener position visited.webState
            (restoredOpener impl oldCount list.webStates visited)).webStateWrappers position =
              some ⟨visited.webState, restoredOpener impl oldCount list.webStates visited⟩ :=
          at?_setAt_self _ bound.1 bound.2
        grind
      · have found : at? (list.withOpener index visited.webState
            (restoredOpener impl oldCount list.webStates visited)).webStateWrappers position =
              at? list.webStateWrappers position :=
          at?_setAt_of_ne _ (Int.le_trans nonneg later) here
        grind

/-! ## A whole restoration -/

theorem restoreSelection_eq (inRange : list.ActiveInRange)
    (counted : list.count = oldCount + window.sessions.length) (nonneg : 0 ≤ oldCount)
    (small : window.selectedIndex ≠ nsNotFound → (window.selectedIndex : Int) < intMax) :
    restoreSelection window oldCount list =
      some { list with activeIndex :=
        if window.selectedIndex ≠ nsNotFound then oldCount + window.selectedIndex
        else list.activeIndex } := by
  unfold restoreSelection
  by_cases selected : window.selectedIndex ≠ nsNotFound
  · have valid := window.valid
    unfold IsIndexValidForSessionCount at valid
    have bound : window.selectedIndex < window.sessions.length := by
      grind
    have inside : list.ContainsIndex (oldCount + window.selectedIndex) := by
      simp only [ContainsIndex]
      rw [counted]
      omega
    simp [if_pos selected, dcheck_of bound, dcheck_of (small selected),
      activateWebStateAt_eq inRange inside]
  · rw [if_neg selected, if_neg selected]

omit [DecidableEq W] in
theorem count_created (list : WebStateList W) (webStateFactory : WebStateFactory W C)
    (sessions : List (CRWSessionStorage C)) :
    count ⟨list.webStateWrappers ++ createdWrappers webStateFactory sessions 0,
      list.activeIndex⟩ = list.count + sessions.length := by
  simp [count]

/-- The second pass and the selection, when the WebStates have been appended. -/
theorem restoreCreated_eq (impl : W → WebStateImpl C) (webStateFactory : WebStateFactory W C)
    (inRange : list.ActiveInRange)
    (small : window.selectedIndex ≠ nsNotFound → (window.selectedIndex : Int) < intMax) :
    ∃ restored after,
      restoreOpenersLoop impl list.count window.sessions.length list.count
        ⟨list.webStateWrappers ++ createdWrappers webStateFactory window.sessions 0,
          list.activeIndex⟩ = some restored ∧
      restoreSelection window list.count restored = some after ∧
      after.count = list.count + window.sessions.length ∧
      after.activeIndex = (if window.selectedIndex ≠ nsNotFound then
        list.count + window.selectedIndex else list.activeIndex) ∧
      (∀ position, position < list.count →
        at? after.webStateWrappers position = at? list.webStateWrappers position) ∧
      ∀ (position : Nat) session, window.sessions[position]? = some session →
        at? after.webStateWrappers (list.count + position) =
          some ⟨(webStateFactory position session).1, restoredOpener impl list.count
            after.webStates ⟨(webStateFactory position session).1, .null⟩⟩ := by
  have nonneg : 0 ≤ list.count := Int.natCast_nonneg _
  have counted := count_created list webStateFactory window.sessions
  obtain ⟨restored, looped, active, states, wrappers⟩ := restoreOpenersLoop_eq impl
    ⟨list.webStateWrappers ++ createdWrappers webStateFactory window.sessions 0,
      list.activeIndex⟩ window.sessions.length nonneg (Int.le_refl _)
      (Int.le_of_eq counted.symm)
  have restoredCount : restored.count = list.count + window.sessions.length := by
    rw [← length_webStates, states, length_webStates, counted]
  have restoredRange : restored.ActiveInRange := by
    rcases inRange with invalid | inside
    · exact .inl (active.trans invalid)
    · refine .inr ?_
      rw [active]
      refine ⟨inside.1, Int.lt_of_lt_of_le inside.2 ?_⟩
      rw [restoredCount]
      omega
  refine ⟨restored, _, looped, restoreSelection_eq restoredRange restoredCount nonneg small,
    restoredCount, ?_, ?_, ?_⟩
  · rw [active]
  · intro position before
    rw [wrappers position, at?_append_left before]
    cases at? list.webStateWrappers position <;> grind
  · intro position session found
    have bound : position < window.sessions.length := (List.getElem?_eq_some_iff.mp found).1
    change at? restored.webStateWrappers (list.count + position) = _
    have appended := at?_append_right list.webStateWrappers
      (createdWrappers webStateFactory window.sessions 0) position
    rw [createdWrappers_getElem?, found, Option.map_some, Nat.zero_add] at appended
    rw [wrappers, count, appended, Option.map_some, if_pos (by omega), ← states]
    rfl

/--
A restoration keeps the WebStates that the list had, appends one WebState for
every session, in order, and resolves its opener among the appended ones.
-/
theorem deserializeWebStateList_eq (impl : W → WebStateImpl C) (lastCommitted : W → Int)
    {webStateFactory : WebStateFactory W C} (inRange : list.ActiveInRange)
    (makes : MakesFresh webStateFactory list)
    (small : window.selectedIndex ≠ nsNotFound → (window.selectedIndex : Int) < intMax) :
    ∃ after impl', deserializeWebStateList lastCommitted webStateFactory impl list window =
        some (after, impl') ∧
      after.count = list.count + window.sessions.length ∧
      after.activeIndex = (if window.selectedIndex ≠ nsNotFound then
        list.count + window.selectedIndex else list.activeIndex) ∧
      (∀ position, position < list.count →
        at? after.webStateWrappers position = at? list.webStateWrappers position) ∧
      ∀ (position : Nat) session, window.sessions[position]? = some session →
        (impl' (webStateFactory position session).1).userData = session.userData ∧
        at? after.webStateWrappers (list.count + position) =
          some ⟨(webStateFactory position session).1, restoredOpener impl' list.count
            after.webStates ⟨(webStateFactory position session).1, .null⟩⟩ := by
  obtain ⟨impl', inserted, _, made⟩ := insertSessionsLoop_eq lastCommitted webStateFactory
    makes.distinct window.sessions 0 inRange impl
  have counted := count_created list webStateFactory window.sessions
  obtain ⟨restored, after, looped, selected, afterCount, active, kept, appended⟩ :=
    restoreCreated_eq impl' webStateFactory inRange small
  refine ⟨after, impl', ?_, afterCount, active, kept, ?_⟩
  · simp only [deserializeWebStateList]
    grind
  · intro position session found
    have created := made position session found
    rw [Nat.zero_add] at created
    simp [created, makes.userData, appended, found]

/-! ## Saving and restoring -/

/--
The list `after` is the list `before` with a copy of `original` appended: new
WebStates whose openers are those of the copy, and the selection of the copy.
-/
structure AppendsCopy (original before after : WebStateList W) : Prop where
  kept : ∀ position, position < before.count →
    at? after.webStateWrappers position = at? before.webStateWrappers position
  counted : after.count = before.count + original.count
  copied : ∀ position wrapper, at? original.webStateWrappers position = some wrapper →
    ∃ appended, at? after.webStateWrappers (before.count + position) = some appended ∧
      appended.webState ∉ before.webStates ∧
      (wrapper.opener.opener = none → appended.opener.opener = none) ∧
      ∀ opening, wrapper.opener.opener = some opening →
        ∃ copy, at? after.webStates
            (before.count + original.getIndexOfWebState (some opening)) = some copy ∧
          appended.opener = ⟨some copy, wrapper.opener.navigationIndex⟩
  active : original.activeIndex ≠ kInvalidIndex →
    after.activeIndex = before.count + original.activeIndex

def CapturesUserData (slim : Bool) (webState : WebStateImpl C) : Prop :=
  slim = true → webState.restoredSessionStorage = none

theorem savedSession_userData (captures : CapturesUserData slim (impl wrapper.webState)) :
    (savedSession slim impl list wrapper).userData =
      (withOpenerWritten impl list wrapper).userData := by
  simp only [savedSession, WebStateImpl.buildSessionStorage]
  split
  · rename_i enabled
    have cached : (withOpenerWritten impl list wrapper).restoredSessionStorage = none :=
      captures enabled
    rw [cached]
    rfl
  · rfl

omit [DecidableEq W] in
theorem restoredOpener_null {webStates : List W} {webState : W}
    (nothing : storedOpener (impl webState).userData = none) :
    (restoredOpener impl oldCount webStates ⟨webState, .null⟩).opener = none := by
  simp only [restoredOpener]
  rw [nothing]
  rfl

omit [DecidableEq W] in
theorem restoredOpener_of_stored {openerIndex navigationIndex : Int} {webStates : List W}
    {webState copy : W}
    (stored : storedOpener (impl webState).userData = some (openerIndex, navigationIndex))
    (nonneg : 0 ≤ openerIndex) (found : at? webStates (oldCount + openerIndex) = some copy) :
    restoredOpener impl oldCount webStates ⟨webState, .null⟩ = ⟨some copy, navigationIndex⟩ := by
  simp only [restoredOpener]
  grind

omit [DecidableEq W] in
/-- The selection of a list that has an active WebState is saved as it is. -/
theorem savedSelection_eq (wf : list.WellFormed) (active : list.activeIndex ≠ kInvalidIndex) :
    (list.savedSelection : Int) = list.activeIndex ∧ list.savedSelection ≠ nsNotFound ∧
      (list.savedSelection : Int) < intMax := by
  have inside : list.ContainsIndex list.activeIndex := wf.active.resolve_left active
  have representable := wf.representable
  have nonneg := inside.1
  have bound := inside.2
  simp only [savedSelection]
  rw [if_pos active]
  simp only [nsNotFound, intMax] at *
  omega

omit [DecidableEq W] in
theorem savedSelection_of_inactive (inactive : list.activeIndex = kInvalidIndex) :
    list.savedSelection = nsNotFound := by
  simp [savedSelection, inactive]

/--
Saving a list and restoring it into another one, with a factory that makes new
WebStates with the stored user data, appends a copy of the first list to the
second.
-/
theorem deserialize_serialize {original before : WebStateList W}
    {earlier earlier' : List (Notification W)} (runOriginal : Run earlier original)
    (runBefore : Run earlier' before)
    (selected : original.webStateWrappers = [] ∨ original.activeIndex ≠ kInvalidIndex)
    {slim : Bool} {impl implBefore : W → WebStateImpl C}
    (captures : ∀ webState ∈ original.webStates, CapturesUserData slim (impl webState))
    {webStateFactory : WebStateFactory W C} (makes : MakesFresh webStateFactory before)
    (lastCommitted : W → Int) :
    ∃ window implSaved after implAfter,
      serializeWebStateList slim impl original = some (window, implSaved) ∧
      deserializeWebStateList lastCommitted webStateFactory implBefore before window =
        some (after, implAfter) ∧
      AppendsCopy original before after := by
  have wf := Run.wellFormed runOriginal
  obtain ⟨window, implSaved, serialized, sessions, selection⟩ :=
    serializeWebStateList_eq slim impl wf selected
  have small : window.selectedIndex ≠ nsNotFound → (window.selectedIndex : Int) < intMax := by
    grind [savedSelection_eq, savedSelection_of_inactive]
  obtain ⟨after, implAfter, deserialized, counted, active, kept, appended⟩ :=
    deserializeWebStateList_eq implBefore lastCommitted
      (Run.wellFormed runBefore).active makes small
  refine ⟨window, implSaved, after, implAfter, serialized, deserialized, kept, ?_, ?_, ?_⟩
  · rw [counted, sessions, List.length_map]
    rfl
  · intro position wrapper taken
    have inside := (containsIndex_iff original position).mpr ⟨wrapper, taken⟩
    have member := mem_of_at? taken
    obtain ⟨n, rfl⟩ := Int.eq_ofNat_of_zero_le inside.1
    have saved : window.sessions[n]? = some (savedSession slim impl original wrapper) := by
      grind [at?_natCast]
    obtain ⟨userData, placed⟩ := appended n _ saved
    have stored : storedOpener (implAfter (webStateFactory n
        (savedSession slim impl original wrapper)).1).userData =
          original.openerRecord wrapper.opener := by
      grind [savedSession_userData, webState_mem, storedOpener_withOpenerWritten]
    refine ⟨_, placed, makes.fresh _ _, ?_, ?_⟩
    · intro without
      rw [openerRecord, without, Option.map_none] at stored
      exact restoredOpener_null stored
    · intro opening recorded
      rw [openerRecord, recorded, Option.map_some] at stored
      have known := wf.known wrapper member opening recorded
      have openerInside := (containsIndex_getIndexOfWebState_iff original opening).mpr known
      have copyInside : after.ContainsIndex
          (before.count + original.getIndexOfWebState (some opening)) := by
        have nonneg : 0 ≤ before.count := Int.natCast_nonneg _
        have length : (window.sessions.length : Int) = original.count := by
          simp [count, sessions]
        simp only [ContainsIndex] at *
        omega
      grind [webStates, getIndexOfWebState, containsIndex_iff_webStates, restoredOpener_of_stored]
  · intro activeOriginal
    obtain ⟨same, chosen, _⟩ := savedSelection_eq wf activeOriginal
    omega

def countingFactory : WebStateFactory Nat Unit := fun call session =>
  (10 + call, WebStateImpl.restoreSessionStorage false session)

/-- Three tabs whose openers form a circle, restored behind themselves. -/
theorem deserialize_serialize_openersInCircle :
    ∃ original : WebStateList Nat,
      original.webStateWrappers = [⟨1, ⟨some 3, 1⟩⟩, ⟨2, ⟨some 1, 3⟩⟩, ⟨3, ⟨some 2, 0⟩⟩] ∧
      ∃ window implSaved after implAfter,
        serializeWebStateList false (fun _ => ⟨.empty, (), none⟩) original =
          some (window, implSaved) ∧
        deserializeWebStateList (fun _ => 0) countingFactory (fun _ => ⟨.empty, (), none⟩)
          original window = some (after, implAfter) ∧
        AppendsCopy original original after := by
  have run : Run _ (⟨[⟨1, ⟨some 3, 1⟩⟩, ⟨2, ⟨some 1, 3⟩⟩, ⟨3, ⟨some 2, 0⟩⟩], 1⟩ :
      WebStateList Nat) :=
    Runs.replay openersInCircle .start (Option.eq_some_of_isSome (by decide))
  refine ⟨_, rfl, deserialize_serialize run run (.inr (by decide)) ?_ ?_ (fun _ => 0)⟩
  · simp [CapturesUserData]
  · constructor
    · intro call session member
      have large : 10 ≤ (countingFactory call session).1 := Nat.le_add_right ..
      simp only [webStates, List.map_cons, List.map_nil, List.mem_cons, List.not_mem_nil,
        or_false] at member
      omega
    · simp [countingFactory]
    · intro call session
      rfl

end ChromiumIos.WebStateList
