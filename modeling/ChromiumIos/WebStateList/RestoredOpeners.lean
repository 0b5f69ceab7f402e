import ChromiumIos.WebStateList.RestoredStorage

/-!
# Openers read from a session window

The indices of the openers come from a file.  They are numbers of any size, read with
`intValue` and added to the number of WebStates the list had, in C++ integers.  The check of
the sum keeps the opener inside the restored part of the list, but it lets a WebState be its
own opener.
-/

namespace ChromiumIos

open Lib

def intValue (number : Int) : Int := (number + 2147483648) % 4294967296 - 2147483648

theorem intValue_bounds (number : Int) : -2147483648 ≤ intValue number ∧
    intValue number ≤ intMax := by
  unfold intValue intMax
  omega

variable {number : Int}

theorem intValue_of_inside (above : -2147483648 ≤ number) (below : number ≤ intMax) :
    intValue number = number := by
  unfold intValue intMax at *
  omega

/-- A sum that is too large is less than both numbers. -/
theorem intValue_of_overflow (above : intMax < number) (below : number ≤ 2 * intMax) :
    intValue number < 0 := by
  unfold intValue intMax at *
  omega

def UserDataValue.withIntValue : UserDataValue → UserDataValue
  | .number value => .number (intValue value)
  | value => value

def SerializableUserData.withIntValues (userData : SerializableUserData) : SerializableUserData :=
  ⟨fun key => (userData.data key).map UserDataValue.withIntValue⟩

def WebStateImpl.withIntValues {C : Type} (webState : WebStateImpl C) : WebStateImpl C :=
  { webState with userData := webState.userData.withIntValues }

namespace WebStateList

variable {W C : Type} [DecidableEq W]
variable {list after : WebStateList W} {impl : W → WebStateImpl C}
variable {notifications : List (Notification W)}

/-! ## The second pass on stored numbers -/

/-- The second pass at one index. -/
def restoreStoredOpenerAt (impl : W → WebStateImpl C) (oldCount : Int) (list : WebStateList W)
    (index : Int) : Checked (WebStateList W) := do
  let webState ← list.getWebStateAt index
  match storedOpener (impl webState).userData with
  | none => return list
  | some (boxedOpenerIndex, boxedOpenerNavigationIndex) =>
    let openerIndex := intValue (intValue boxedOpenerIndex + oldCount)
    if openerIndex < oldCount ∨ openerIndex ≥ list.count then
      return list
    else
      let opener ← list.getWebStateAt openerIndex
      list.setOpenerOfWebStateAt index ⟨some opener, intValue boxedOpenerNavigationIndex⟩

def restoreStoredOpenersLoop (impl : W → WebStateImpl C) (oldCount : Int) :
    Nat → Int → WebStateList W → Checked (WebStateList W)
  | 0, _, list => some list
  | remaining + 1, index, list => do
      let list ← list.restoreStoredOpenerAt impl oldCount index
      restoreStoredOpenersLoop impl oldCount remaining (index + 1) list

/-- The restoration of a window as it was read from its file. -/
def deserializeStoredWindow (lastCommitted : W → Int) (webStateFactory : WebStateFactory W C)
    (impl : W → WebStateImpl C) (list : WebStateList W) (window : SessionWindowIOS C) :
    Checked (WebStateList W × (W → WebStateImpl C)) := do
  let oldCount := list.count
  let (list, impl) ←
    insertSessionsLoop lastCommitted webStateFactory window.sessions 0 (list, impl)
  let list ← restoreStoredOpenersLoop impl oldCount (list.count - oldCount).toNat oldCount list
  let list ← restoreSelection window oldCount list
  return (list, impl)

theorem storedOpener_withIntValues (userData : SerializableUserData) :
    storedOpener userData.withIntValues =
      (storedOpener userData).map fun (openerIndex, openerNavigationIndex) =>
        (intValue openerIndex, intValue openerNavigationIndex) := by
  have number : ∀ key, storedNumber userData.withIntValues key =
      (storedNumber userData key).map intValue := by
    intro key
    unfold storedNumber SerializableUserData.getValueForSerializationKey
      SerializableUserData.withIntValues
    dsimp only
    cases userData.data key with
    | none => rfl
    | some value => cases value <;> rfl
  unfold storedOpener
  rw [number, number]
  cases storedNumber userData kOpenerIndexKey with
  | none => rfl
  | some _ => cases storedNumber userData kOpenerNavigationIndexKey <;> rfl

/-- A sum that leaves the C++ integers is out of bounds, as it would be without a limit. -/
theorem restoreStoredOpenerAt_eq {oldCount index : Int} (nonneg : 0 ≤ oldCount)
    (inside : oldCount ≤ list.count) (representable : list.count ≤ intMax) :
    list.restoreStoredOpenerAt impl oldCount index =
      list.restoreOpenerAt (fun webState => (impl webState).withIntValues) oldCount index := by
  unfold restoreStoredOpenerAt restoreOpenerAt
  cases list.getWebStateAt index with
  | none => rfl
  | some webState =>
    simp only [Option.bind_eq_bind, Option.bind_some, WebStateImpl.withIntValues,
      storedOpener_withIntValues]
    cases storedOpener (impl webState).userData with
    | none => rfl
    | some stored =>
      obtain ⟨openerIndex, openerNavigationIndex⟩ := stored
      simp only [Option.map_some]
      have bounds := intValue_bounds openerIndex
      by_cases overflow : intMax < intValue openerIndex + oldCount
      · have negative := intValue_of_overflow overflow (by omega)
        grind
      · grind [intValue_of_inside]

theorem restoreStoredOpenersLoop_eq {oldCount index : Int} {remaining : Nat}
    (nonneg : 0 ≤ oldCount) (inside : oldCount ≤ list.count)
    (representable : list.count ≤ intMax) :
    restoreStoredOpenersLoop impl oldCount remaining index list =
      restoreOpenersLoop (fun webState => (impl webState).withIntValues) oldCount remaining index
        list := by
  induction remaining generalizing index list with
  | zero => rfl
  | succ _ _ =>
    unfold restoreStoredOpenersLoop restoreOpenersLoop
    rw [restoreStoredOpenerAt_eq nonneg inside representable]
    refine Option.bind_congr fun restored returned => ?_
    obtain ⟨webState, read, _⟩ := Option.bind_eq_some_iff.mp returned
    obtain ⟨wrapper, taken, _⟩ := Option.map_eq_some_iff.mp read
    grind [restoreOpenerAt_eq, length_webStates, webStates_withOpener]

/-! ## The restored list -/

omit [DecidableEq W] in
/-- The selection fits into a C++ integer when the WebStates do. -/
theorem selectedIndex_small {window : SessionWindowIOS C}
    (room : list.count + window.sessions.length ≤ intMax)
    (selected : window.selectedIndex ≠ nsNotFound) : (window.selectedIndex : Int) < intMax := by
  have nonneg : 0 ≤ list.count := Int.natCast_nonneg _
  grind [IsIndexValidForSessionCount, window.valid]

/-- The WebStates that were there stay as they are, and each session becomes a WebState whose
opener is the restored one at the index that the session names. -/
structure AppendsSessions (webStateFactory : WebStateFactory W C) (window : SessionWindowIOS C)
    (list after : WebStateList W) (impl : W → WebStateImpl C) : Prop where
  wellFormed : after.WellFormed
  counted : after.count = list.count + window.sessions.length
  kept : ∀ position, position < list.count →
    at? after.webStateWrappers position = at? list.webStateWrappers position
  userData : ∀ (position : Nat) session, window.sessions[position]? = some session →
    (impl (webStateFactory position session).1).userData = session.userData
  appended : ∀ (position : Nat) session, window.sessions[position]? = some session →
    at? after.webStateWrappers (list.count + position) =
      some ⟨(webStateFactory position session).1,
        restoredOpener (fun webState => (impl webState).withIntValues) list.count
          after.webStates ⟨(webStateFactory position session).1, .null⟩⟩

theorem deserializeStoredWindow_eq (impl : W → WebStateImpl C) (lastCommitted : W → Int)
    {webStateFactory : WebStateFactory W C} {window : SessionWindowIOS C}
    (wf : list.WellFormed) (makes : MakesFresh webStateFactory list)
    (room : list.count + window.sessions.length ≤ intMax) :
    ∃ after impl', deserializeStoredWindow lastCommitted webStateFactory impl list window =
        some (after, impl') ∧ AppendsSessions webStateFactory window list after impl' := by
  have nonneg : 0 ≤ list.count := Int.natCast_nonneg _
  have counted := count_created list webStateFactory window.sessions
  obtain ⟨impl', inserted, _, made⟩ := insertSessionsLoop_eq lastCommitted webStateFactory
    makes.distinct window.sessions 0 wf.active impl
  obtain ⟨restored, after, looped, selected, afterCount, _, kept, appended⟩ :=
    restoreCreated_eq (fun webState => (impl' webState).withIntValues) webStateFactory wf.active
      (selectedIndex_small room)
  have created := insertSessionsLoop_wellFormed wf
    (fun later session _ => makes.fresh later session) makes.distinct room inserted
  have restoredWf := restoreOpenersLoop_wellFormed created nonneg looped
  have storedLoop : restoreStoredOpenersLoop impl' list.count window.sessions.length list.count
      ⟨list.webStateWrappers ++ createdWrappers webStateFactory window.sessions 0,
        list.activeIndex⟩ = some restored := by
    grind [restoreStoredOpenersLoop_eq]
  refine ⟨after, impl', ?_,
    restoreSelection_wellFormed restoredWf selected, afterCount, kept, ?_, appended⟩
  · simp only [deserializeStoredWindow]
    grind
  · intro position session found
    have created := made position session found
    rw [Nat.zero_add] at created
    simp [created, makes.userData]

def StoresOwnPosition (window : SessionWindowIOS C) : Prop :=
  ∃ (position : Nat) (session : CRWSessionStorage C), window.sessions[position]? = some session ∧
    ∃ openerIndex openerNavigationIndex,
      storedOpener session.userData = some (openerIndex, openerNavigationIndex) ∧
        intValue openerIndex = position

omit [DecidableEq W] in
/-- A restored WebState is its own opener exactly if its session names its own position. -/
theorem restoredOpener_own_iff {oldCount : Int} {position : Nat} {webState : W}
    {session : CRWSessionStorage C} (nodup : list.webStates.Nodup)
    (found : at? list.webStates (oldCount + position) = some webState)
    (userData : (impl webState).userData = session.userData) :
    (restoredOpener (fun webState => (impl webState).withIntValues) oldCount list.webStates
        ⟨webState, .null⟩).opener = some webState ↔
      ∃ openerIndex openerNavigationIndex,
        storedOpener session.userData = some (openerIndex, openerNavigationIndex) ∧
          intValue openerIndex = position := by
  unfold restoredOpener WebStateImpl.withIntValues
  dsimp only
  rw [storedOpener_withIntValues, userData]
  cases storedOpener session.userData with
  | none =>
    simp [WebStateOpener.null]
  | some stored =>
    obtain ⟨openerIndex, openerNavigationIndex⟩ := stored
    have same : (∃ index navigationIndex, some (openerIndex, openerNavigationIndex) =
        some (index, navigationIndex) ∧ intValue index = position) ↔
          intValue openerIndex = position := by
      simp
    rw [same, Option.map_some]
    dsimp only
    by_cases negative : intValue openerIndex < 0
    · rw [if_pos negative]
      exact iff_of_false (fun same => by cases same) (by omega)
    · rw [if_neg negative]
      cases other : at? list.webStates (oldCount + intValue openerIndex) with
      | none =>
        refine iff_of_false (fun own => by cases own) fun same => ?_
        simp [same, found] at other
      | some _ =>
        grind [at?_inj]

namespace AppendsSessions

variable {webStateFactory : WebStateFactory W C} {window : SessionWindowIOS C}

omit [DecidableEq W] in
theorem own_iff (restored : AppendsSessions webStateFactory window list after impl)
    {position : Nat} {session : CRWSessionStorage C}
    (found : window.sessions[position]? = some session) :
    (∃ wrapper, at? after.webStateWrappers (list.count + position) = some wrapper ∧
        wrapper.opener.opener = some wrapper.webState) ↔
      ∃ openerIndex openerNavigationIndex,
        storedOpener session.userData = some (openerIndex, openerNavigationIndex) ∧
          intValue openerIndex = position := by
  have appended := restored.appended position session found
  rw [appended, ← restoredOpener_own_iff restored.wellFormed.nodup
    (at?_webStates_of_taken appended) (restored.userData position session found)]
  simp

omit [DecidableEq W] in
/-- No WebState of the restored list is its own opener exactly if none was before and no
session names its own position. -/
theorem noOwnOpener_iff (restored : AppendsSessions webStateFactory window list after impl) :
    after.NoOwnOpener ↔ list.NoOwnOpener ∧ ¬ StoresOwnPosition window := by
  constructor
  · intro proper
    constructor
    · intro wrapper included
      obtain ⟨position, taken⟩ := List.mem_iff_getElem?.mp included
      have bound : (position : Int) < list.count := by
        grind [count]
      exact proper wrapper (mem_of_at? ((restored.kept position bound).trans taken))
    · rintro ⟨position, session, found, stored⟩
      obtain ⟨wrapper, taken, own⟩ := (restored.own_iff found).mpr stored
      exact proper wrapper (mem_of_at? taken) own
  · rintro ⟨proper, foreign⟩ wrapper included own
    obtain ⟨position, taken⟩ := List.mem_iff_getElem?.mp included
    rw [← at?_natCast] at taken
    by_cases old : (position : Int) < list.count
    · rw [restored.kept position old] at taken
      exact proper wrapper (mem_of_at? taken) own
    · obtain ⟨later, split⟩ : ∃ later : Nat, (position : Int) = list.count + later :=
        ⟨(position - list.count).toNat, by omega⟩
      have inside := (containsIndex_iff after position).mpr ⟨wrapper, taken⟩
      have bound : later < window.sessions.length := by
        have before := inside.2
        rw [restored.counted] at before
        omega
      have found := List.getElem?_eq_getElem bound
      rw [split] at taken
      exact foreign (by grind [StoresOwnPosition, restored.own_iff])

end AppendsSessions

/-! ## Runs of the restored list -/

/-- What a list keeps in the runs from it: the active index is invalid or inside the list, and
the next operation that meets its precondition returns. -/
def SafeAfterwards (list : WebStateList W) : Prop :=
  ∀ notifications later,
    Runs step (fun list input => list.Admissible input ∧ ¬ list.MakesOwnOpener input) list
      notifications later →
    (later.activeIndex = kInvalidIndex ∨
      0 ≤ later.activeIndex ∧ later.activeIndex < later.count) ∧
    ∀ input, later.Admissible input →
      ∃ after emitted, later.step input = some (after, emitted)

theorem WellFormed.safeAfterwards (wf : list.WellFormed) (proper : list.NoOwnOpener) :
    list.SafeAfterwards := by
  intro notifications later run
  have holds : later.WellFormed ∧ later.NoOwnOpener := by
    refine Runs.invariant (fun list => list.WellFormed ∧ list.NoOwnOpener) run ⟨wf, proper⟩ ?_
    grind [step_wellFormed, step_noOwnOpener]
  exact ⟨holds.1.active, fun input admissible => step_isSome holds.1 holds.2 admissible⟩

def RestoresSafely (lastCommitted : W → Int) (webStateFactory : WebStateFactory W C)
    (impl : W → WebStateImpl C) (list : WebStateList W) (window : SessionWindowIOS C) : Prop :=
  ∃ after impl', deserializeStoredWindow lastCommitted webStateFactory impl list window =
      some (after, impl') ∧
    after.WellFormed ∧ after.NoOwnOpener ∧ after.SafeAfterwards

/--
A window with any stored indices is restored into a safe list exactly if no session names its
own position as the index of its opener, no WebState of the list having been its own opener
before.
-/
theorem restoresSafely_iff (run : Run notifications list) (lastCommitted : W → Int)
    {webStateFactory : WebStateFactory W C} (makes : MakesFresh webStateFactory list)
    (impl : W → WebStateImpl C) {window : SessionWindowIOS C}
    (room : list.count + window.sessions.length ≤ intMax) :
    RestoresSafely lastCommitted webStateFactory impl list window ↔
      list.NoOwnOpener ∧ ¬ StoresOwnPosition window := by
  obtain ⟨after, impl', returned, restored⟩ :=
    deserializeStoredWindow_eq impl lastCommitted (Run.wellFormed run) makes room
  rw [← restored.noOwnOpener_iff]
  constructor
  · rintro ⟨other, _, same, -, proper, -⟩
    grind
  · intro proper
    exact ⟨after, impl', returned, restored.wellFormed, proper,
      restored.wellFormed.safeAfterwards proper⟩

def sessionWithOpener (openerIndex openerNavigationIndex : Int) : CRWSessionStorage Unit :=
  ⟨(), (SerializableUserData.empty.addSerializableData (.number openerIndex)
    kOpenerIndexKey).addSerializableData (.number openerNavigationIndex)
      kOpenerNavigationIndexKey⟩

def storedWindow : SessionWindowIOS Unit :=
  ⟨[sessionWithOpener 1 0, sessionWithOpener (-1) 0, sessionWithOpener (2 ^ 40 - 1) (2 ^ 33)], 2,
    by decide⟩

theorem countingFactory_makesFresh : MakesFresh countingFactory (empty : WebStateList Nat) :=
  ⟨fun _ _ => List.not_mem_nil, fun same => Nat.add_left_cancel same, fun _ _ => rfl⟩

theorem restoresSafely_storedWindow :
    RestoresSafely (fun _ => 0) countingFactory (fun _ => ⟨.empty, (), none⟩) .empty
      storedWindow := by
  refine (restoresSafely_iff .start _ countingFactory_makesFresh _ (by decide)).mpr
    ⟨empty_noOwnOpener, ?_⟩
  rintro ⟨position, session, found, openerIndex, openerNavigationIndex, stored, own⟩
  match position with
  | 0 => cases found; cases stored; exact absurd own (by decide)
  | 1 => cases found; cases stored; exact absurd own (by decide)
  | 2 => cases found; cases stored; exact absurd own (by decide)
  | position + 3 => cases found

def ownOpenerWindow : SessionWindowIOS Unit :=
  ⟨[sessionWithOpener 0 0], 0, by decide⟩

/-- The WebState is restored as its own opener, and it cannot be closed then: it is active, and
the index of its opener is to be active in its place. -/
theorem not_restoresSafely_ownOpenerWindow :
    ¬ RestoresSafely (fun _ => 0) countingFactory (fun _ => ⟨.empty, (), none⟩) .empty
        ownOpenerWindow ∧
      (deserializeStoredWindow (fun _ => 0) countingFactory (fun _ => ⟨.empty, (), none⟩) .empty
        ownOpenerWindow).map Prod.fst = some ⟨[⟨10, ⟨some 10, 0⟩⟩], 0⟩ ∧
      Admissible (⟨[⟨10, ⟨some 10, 0⟩⟩], 0⟩ : WebStateList Nat)
        ⟨fun _ => 0, .closeWebStateAt 0 0⟩ ∧
      step (⟨[⟨10, ⟨some 10, 0⟩⟩], 0⟩ : WebStateList Nat) ⟨fun _ => 0, .closeWebStateAt 0 0⟩ =
        none := by
  have restored : (deserializeStoredWindow (fun _ => 0) countingFactory
      (fun _ => ⟨.empty, (), none⟩) .empty ownOpenerWindow).map Prod.fst =
        some ⟨[⟨10, ⟨some 10, 0⟩⟩], 0⟩ := by decide
  refine ⟨?_, restored, by decide, by decide⟩
  rintro ⟨after, impl', returned, -, proper, -⟩
  rw [returned] at restored
  cases restored
  exact proper _ List.mem_cons_self rfl

end WebStateList

end ChromiumIos
