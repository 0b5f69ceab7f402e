import ChromiumIos.Tabs.TabRestoreService
import ChromiumIos.WebStateList.RestoredStorage

/-!
# Closing all items of the grid and taking it back

All tabs are saved and closed, and the saved window is restored into the empty list.  Of
the entries that the restore service got meanwhile as many are removed as tabs were
closed.  Some tabs get no entry, so that entries can be removed that were there before.
-/

namespace ChromiumIos

open Lib WebStateList

variable {W C Service Entry : Type} [DecidableEq W]

/-- The mediator with the list, its WebStates and the restore service. -/
structure GridClosing (W C Service : Type) where
  webStateList : WebStateList W
  impl : W → WebStateImpl C
  tabRestoreService : Option Service
  closedSessionWindow : Option (SessionWindowIOS C)
  closedTabsCount : Nat

namespace GridClosing

variable (api : TabRestoreService Service Entry W) (slim : Bool)

def saveAndCloseAllItems (navigation : W → TabNavigation) (lastCommitted : W → Int)
    (state : GridClosing W C Service) : Checked (GridClosing W C Service) :=
  if state.webStateList.webStateWrappers.isEmpty then some state
  else do
    let (window, impl) ← serializeWebStateList slim state.impl state.webStateList
    let (webStateList, notifications) ←
      state.webStateList.closeAllWebStates lastCommitted closeUserAction
    return {
      webStateList, impl
      tabRestoreService := notifications.foldl (api.observe navigation) state.tabRestoreService
      closedSessionWindow := some window
      closedTabsCount := state.webStateList.webStateWrappers.length }

def undoCloseAllItems (lastCommitted : W → Int) (identity : Nat → W)
    (state : GridClosing W C Service) : Checked (GridClosing W C Service) :=
  match state.closedSessionWindow with
  | none => some state
  | some window => do
      let (webStateList, impl) ← deserializeWebStateList lastCommitted
        (WindowState.restoringFactory slim identity) state.impl state.webStateList window
      return {
        webStateList, impl
        tabRestoreService := state.tabRestoreService.map (api.removeEntries state.closedTabsCount)
        closedSessionWindow := none
        closedTabsCount := 0 }

structure SameTabs (before after : GridClosing W C Service) : Prop where
  count : after.webStateList.count = before.webStateList.count
  sessions : ∀ position wrapper restored,
    at? before.webStateList.webStateWrappers position = some wrapper →
    at? after.webStateList.webStateWrappers position = some restored →
      (after.impl restored.webState).buildSessionStorage slim =
        savedSession slim before.impl before.webStateList wrapper
  openers : ∀ position wrapper restored,
    at? before.webStateList.webStateWrappers position = some wrapper →
    at? after.webStateList.webStateWrappers position = some restored →
      after.webStateList.openerRecord restored.opener =
        before.webStateList.openerRecord wrapper.opener
  activeIndex : after.webStateList.activeIndex = before.webStateList.activeIndex

def SameEntries (before after : GridClosing W C Service) : Prop :=
  after.tabRestoreService.map api.entries = before.tabRestoreService.map api.entries

/-- Every tab gets an entry, unless there is none to be lost. -/
def RecordsAll (navigation : W → TabNavigation) (state : GridClosing W C Service) : Prop :=
  ∀ service ∈ state.tabRestoreService, api.entries service = [] ∨
    ∀ webState ∈ state.webStateList.webStates, TabRestoreService.isRecorded navigation webState

/-- What the restoration of a list of `count` tabs makes of a stored opener. -/
def resolved (count : Int) (record : Option (Int × Int)) : Option (Int × Int) :=
  record.filter fun record => 0 ≤ record.1 ∧ record.1 < count

/-- A storage that is kept for a tab since its restoration still leads to the opener of the tab. -/
def KeepsOpeners (state : GridClosing W C Service) : Prop :=
  ∀ wrapper ∈ state.webStateList.webStateWrappers, slim = true →
    ∀ kept, (state.impl wrapper.webState).restoredSessionStorage = some kept →
      resolved state.webStateList.count (storedOpener kept.userData) =
        state.webStateList.openerRecord wrapper.opener

/-! ## Openers -/

omit [DecidableEq W] in
theorem at?_lt {list : List W} {position : Int} {value : W}
    (found : at? list position = some value) : 0 ≤ position ∧ position < list.length :=
  by grind [at?_isSome_iff]

/-- The opener that a restored tab gets has the index that was stored, if it is inside the list. -/
theorem openerRecord_restoredOpener {after : WebStateList W} {impl : W → WebStateImpl C}
    (nodup : after.webStates.Nodup) (webState : W) :
    after.openerRecord (restoredOpener impl 0 after.webStates ⟨webState, .null⟩) =
      resolved after.count (storedOpener (impl webState).userData) := by
  have length : (after.webStates.length : Int) = after.count := length_webStates after
  unfold restoredOpener
  dsimp only
  cases storedOpener (impl webState).userData with
  | none => rfl
  | some record =>
    obtain ⟨openerIndex, navigationIndex⟩ := record
    dsimp only
    rw [Int.zero_add]
    cases found : at? after.webStates openerIndex with
    | none =>
      have outside := (at?_eq_none_iff after.webStates openerIndex).mp found
      have resolvedNone :
          resolved after.count (some (openerIndex, navigationIndex)) = none := by
        exact if_neg (by simpa using outside)
      rw [resolvedNone]
      split
      · rfl
      · rfl
    | some opening =>
      have inside := at?_lt found
      rw [length] at inside
      rw [if_neg (Int.not_lt.mpr inside.1)]
      have resolvedSome : resolved after.count (some (openerIndex, navigationIndex)) =
          some (openerIndex, navigationIndex) := by
        exact if_pos (decide_eq_true inside)
      rw [resolvedSome]
      change some (after.getIndexOfWebState (some opening), navigationIndex) = _
      rw [getIndexOfWebState_of_at? nodup found]

variable {list : WebStateList W} {impl : W → WebStateImpl C} {wrapper : WebStateWrapper W}
variable {slim}

theorem resolved_openerRecord (wf : list.WellFormed) (member : wrapper ∈ list.webStateWrappers) :
    resolved list.count (list.openerRecord wrapper.opener) = list.openerRecord wrapper.opener := by
  unfold openerRecord
  cases recorded : wrapper.opener.opener with
  | none => rfl
  | some opening =>
    have inside := (containsIndex_getIndexOfWebState_iff list opening).mpr
      (wf.known wrapper member opening recorded)
    exact if_pos (decide_eq_true inside)

/-- What is saved for a tab leads to its opener exactly if a storage that is kept for it does. -/
theorem savedSession_resolved_iff (wf : list.WellFormed)
    (member : wrapper ∈ list.webStateWrappers) :
    resolved list.count (storedOpener (savedSession slim impl list wrapper).userData) =
        list.openerRecord wrapper.opener ↔
      (slim = true → ∀ kept, (impl wrapper.webState).restoredSessionStorage = some kept →
        resolved list.count (storedOpener kept.userData) = list.openerRecord wrapper.opener) := by
  have written : resolved list.count
      (storedOpener (withOpenerWritten impl list wrapper).userData) =
        list.openerRecord wrapper.opener := by
    rw [storedOpener_withOpenerWritten wf member]
    exact resolved_openerRecord wf member
  have same : (withOpenerWritten impl list wrapper).restoredSessionStorage =
      (impl wrapper.webState).restoredSessionStorage := rfl
  simp only [savedSession, WebStateImpl.buildSessionStorage]
  rw [same]
  cases slim with
  | false => simpa [WebStateImpl.buildStorage] using written
  | true =>
    cases (impl wrapper.webState).restoredSessionStorage with
    | none => simpa [WebStateImpl.buildStorage] using written
    | some _ =>
      simp

/-! ## Closing and restoring -/

/-- All tabs are closed, from the last to the first, and none is active then. -/
theorem closeAllWebStates_spec (lastCommitted : W → Int) (closeFlags : Flags)
    (wf : list.WellFormed) (proper : list.NoOwnOpener) :
    ∃ closed notifications,
      list.closeAllWebStates lastCommitted closeFlags = some (closed, notifications) ∧
      closed = empty ∧ TabRestoreService.detaching notifications = list.webStates.reverse := by
  obtain ⟨closed, notifications, returned, emptied⟩ :=
    closeAllLoop_isSome lastCommitted closeFlags wf proper (Nat.le_refl _)
  refine ⟨closed, notifications, returned, ?_, closeAllLoop_detaching wf (Nat.le_refl _) returned⟩
  have closedWf : closed.WellFormed :=
    (closeAllLoop_chain wf returned : Chain (Effect False) _ _ _).invariant wf Effect.wellFormed
  obtain ⟨_, _⟩ := closed
  cases emptied
  rcases closedWf.active with invalid | inside
  · cases invalid
    rfl
  · exact absurd (Int.lt_of_le_of_lt inside.1 inside.2) (Int.lt_irrefl _)

variable {identity : Nat → W} {window : SessionWindowIOS C}

/-- The tabs of a restored window are what the factory makes of its sessions. -/
theorem deserialized_impl {lastCommitted : W → Int} {restored : WebStateList W}
    {made : W → WebStateImpl C} (distinct : Function.Injective identity)
    (returned : deserializeWebStateList lastCommitted (WindowState.restoringFactory slim identity)
      impl empty window = some (restored, made)) {position : Nat} {session : CRWSessionStorage C}
    (found : window.sessions[position]? = some session) :
    made (identity position) = WebStateImpl.restoreSessionStorage slim session := by
  obtain ⟨_, inserted, -, stored⟩ := insertSessionsLoop_eq lastCommitted
    (WindowState.restoringFactory slim identity) (fun same => distinct same) window.sessions 0
    empty_wellFormed.active impl
  obtain ⟨⟨_, _⟩, inserted', returned⟩ := Option.bind_eq_some_iff.mp returned
  obtain ⟨_, -, returned⟩ := Option.bind_eq_some_iff.mp returned
  obtain ⟨_, -, result⟩ := Option.bind_eq_some_iff.mp returned
  cases result
  cases inserted.symm.trans inserted'
  have created := stored position session found
  rw [Nat.zero_add] at created
  exact created

omit [DecidableEq W] in
theorem buildSessionStorage_restored (session : CRWSessionStorage C) :
    (WebStateImpl.restoreSessionStorage slim session).buildSessionStorage slim = session := by
  cases slim <;> rfl

/-- Every tab of a saved list comes back at its place, with what was saved for it. -/
theorem deserialize_saved (wf : list.WellFormed) (active : list.activeIndex ≠ kInvalidIndex)
    (sessions : window.sessions = list.webStateWrappers.map (savedSession slim impl list))
    (selection : window.selectedIndex = list.savedSelection) (lastCommitted : W → Int)
    (distinct : Function.Injective identity) (implSaved : W → WebStateImpl C) :
    ∃ restored made,
      deserializeWebStateList lastCommitted (WindowState.restoringFactory slim identity) implSaved
        empty window = some (restored, made) ∧
      restored.count = list.count ∧ restored.activeIndex = list.activeIndex ∧
      ∀ position wrapper, at? list.webStateWrappers position = some wrapper →
        ∃ copy, at? restored.webStateWrappers position = some copy ∧
          (made copy.webState).buildSessionStorage slim = savedSession slim impl list wrapper ∧
          restored.openerRecord copy.opener =
            resolved list.count (storedOpener (savedSession slim impl list wrapper).userData) := by
  obtain ⟨same, chosen, small⟩ := savedSelection_eq wf active
  have makes : MakesFresh (WindowState.restoringFactory (C := C) slim identity) empty :=
    WindowState.restoringFactory_makesFresh distinct fun _ mem => by cases mem
  have length : (window.sessions.length : Int) = list.count := by
    rw [sessions, List.length_map]
    rfl
  obtain ⟨restored, made, returned, counted, activeIndex, -, appended⟩ :=
    deserializeWebStateList_eq implSaved lastCommitted empty_wellFormed.active makes
      (fun _ => selection ▸ small)
  have noTabs : (empty : WebStateList W).count = 0 := rfl
  rw [noTabs, Int.zero_add] at counted
  have restoredWf : restored.WellFormed :=
    deserializeWebStateList_wellFormed empty_wellFormed makes
      (by simp [noTabs, length, wf.representable]) returned
  refine ⟨restored, made, returned, counted.trans length, ?_, ?_⟩
  · omega
  · intro position wrapper taken
    have inside := (containsIndex_iff list position).mpr ⟨wrapper, taken⟩
    obtain ⟨position, rfl⟩ := Int.eq_ofNat_of_zero_le inside.1
    have saved : window.sessions[position]? = some (savedSession slim impl list wrapper) := by
      grind [at?_natCast]
    obtain ⟨userData, placed⟩ := appended position _ saved
    rw [noTabs, Int.zero_add] at placed
    have created := deserialized_impl distinct returned saved
    refine ⟨_, placed, ?_, ?_⟩
    · exact created ▸ buildSessionStorage_restored _
    · rw [openerRecord_restoredOpener restoredWf.nodup, userData, counted, length]

/-! ## Entries -/

/-- Dropping more than was added leaves a list only if there was nothing to lose. -/
theorem drop_eq_iff {entries : List Entry} {lost : Nat} :
    entries.drop lost = entries ↔ entries = [] ∨ lost = 0 := by
  constructor
  · intro same
    have length := congrArg List.length same
    rw [List.length_drop] at length
    rcases Nat.eq_zero_or_pos lost with none | some
    · exact .inr none
    · exact .inl (List.eq_nil_of_length_eq_zero (by omega))
  · grind

omit [DecidableEq W] in
/-- The service keeps its entries exactly if all tabs got one or there were none. -/
theorem entries_undone {navigation : W → TabNavigation} (service : Service)
    {notifications : List (Notification W)} {webStates : List W}
    (detached : TabRestoreService.detaching notifications = webStates.reverse) :
    ∃ observed, notifications.foldl (api.observe navigation) (some service) = some observed ∧
      (api.entries (api.removeEntries webStates.length observed) = api.entries service ↔
        api.entries service = [] ∨
          ∀ webState ∈ webStates, TabRestoreService.isRecorded navigation webState) := by
  obtain ⟨observed, returned, recorded, entries, length⟩ :=
    api.entries_observed navigation service notifications
  refine ⟨observed, returned, ?_⟩
  rw [detached, List.countP_reverse] at length
  have bound : recorded.length ≤ webStates.length := length ▸ List.countP_le_length
  rw [api.entries_removeEntries, entries, List.drop_append, List.drop_eq_nil_of_le bound,
    List.nil_append, drop_eq_iff, ← List.countP_eq_length, ← length]
  exact or_congr Iff.rfl (by omega)

/-! ## Taking it back -/

/-- The tabs are the same exactly if no stored opener is outdated. -/
theorem sameTabs_iff {before after : GridClosing W C Service} (wf : before.webStateList.WellFormed)
    (count : after.webStateList.count = before.webStateList.count)
    (activeIndex : after.webStateList.activeIndex = before.webStateList.activeIndex)
    (copied : ∀ position wrapper,
      at? before.webStateList.webStateWrappers position = some wrapper →
        ∃ copy, at? after.webStateList.webStateWrappers position = some copy ∧
          (after.impl copy.webState).buildSessionStorage slim =
            savedSession slim before.impl before.webStateList wrapper ∧
          after.webStateList.openerRecord copy.opener =
            resolved before.webStateList.count (storedOpener
              (savedSession slim before.impl before.webStateList wrapper).userData)) :
    SameTabs slim before after ↔ KeepsOpeners slim before := by
  constructor
  · intro same wrapper member
    obtain ⟨position, taken⟩ := List.mem_iff_getElem?.mp member
    obtain ⟨copy, placed, -, opener⟩ := copied position wrapper taken
    refine (savedSession_resolved_iff wf member).mp ?_
    rw [← opener]
    exact same.openers position wrapper copy taken placed
  · intro keeps
    refine ⟨count, ?_, ?_, activeIndex⟩
    · grind
    · intro position wrapper restored taken placed
      obtain ⟨_, placed', -, opener⟩ := copied position wrapper taken
      cases placed.symm.trans placed'
      rw [opener]
      exact (savedSession_resolved_iff wf (mem_of_at? taken)).mpr
        (keeps wrapper (mem_of_at? taken))

/-- What closing all items and taking it back leads to is what there was exactly if no stored
opener is outdated and no entry is lost. -/
theorem undo_saveAndClose_iff {state : GridClosing W C Service} {navigation : W → TabNavigation}
    {identity : Nat → W} (wf : state.webStateList.WellFormed)
    (proper : state.webStateList.NoOwnOpener)
    (selected : state.webStateList.webStateWrappers = [] ∨
      state.webStateList.activeIndex ≠ kInvalidIndex)
    (nothingSaved : state.webStateList.webStateWrappers = [] → state.closedSessionWindow = none)
    (distinct : Function.Injective identity) (lastCommitted lastCommittedLater : W → Int) :
    ∃ closed undone,
      saveAndCloseAllItems api slim navigation lastCommitted state = some closed ∧
      undoCloseAllItems api slim lastCommittedLater identity closed = some undone ∧
      (SameTabs slim state undone ∧ SameEntries api state undone ↔
        KeepsOpeners slim state ∧ RecordsAll api navigation state) := by
  cases nonempty : state.webStateList.webStateWrappers.isEmpty with
  | true =>
    have noTabs := List.isEmpty_iff.mp nonempty
    have notTaken : ∀ {position wrapper},
        at? state.webStateList.webStateWrappers position ≠ some wrapper := by
      intro position wrapper taken
      have member := mem_of_at? taken
      rw [noTabs] at member
      cases member
    refine ⟨state, state, if_pos nonempty, ?_, ?_⟩
    · unfold undoCloseAllItems
      rw [nothingSaved noTabs]
    · refine iff_of_true ⟨⟨rfl, fun _ _ _ taken => absurd taken notTaken,
        fun _ _ _ taken => absurd taken notTaken, rfl⟩, rfl⟩ ⟨?_, ?_⟩
      · simp [KeepsOpeners, noTabs]
      · simp [RecordsAll, webStates, noTabs]
  | false =>
    have active := selected.resolve_left fun noTabs => by
      simp [noTabs] at nonempty
    obtain ⟨window, implSaved, serialized, sessions, selection⟩ :=
      serializeWebStateList_eq slim state.impl wf selected
    obtain ⟨_, notifications, closedAll, rfl, detached⟩ :=
      closeAllWebStates_spec lastCommitted closeUserAction wf proper
    obtain ⟨_, _, deserialized, count, activeIndex, copied⟩ :=
      deserialize_saved wf active sessions selection lastCommittedLater distinct implSaved
    have closing : saveAndCloseAllItems api slim navigation lastCommitted state = some
        { webStateList := empty
          impl := implSaved
          tabRestoreService :=
            notifications.foldl (api.observe navigation) state.tabRestoreService
          closedSessionWindow := some window
          closedTabsCount := state.webStateList.webStateWrappers.length } := by
      simp [saveAndCloseAllItems, nonempty, serialized, closedAll]
    refine ⟨_, _, closing, Option.bind_eq_some_iff.mpr ⟨_, deserialized, rfl⟩, ?_⟩
    refine and_congr (sameTabs_iff wf count activeIndex copied) ?_
    unfold SameEntries RecordsAll
    cases state.tabRestoreService with
    | none =>
      simp [api.observed_none]
    | some service =>
      obtain ⟨_, returned, kept⟩ := entries_undone api service detached
      rw [webStates, List.length_map] at kept
      rw [returned, Option.map_some, Option.map_some, Option.map_some, Option.some.injEq, kept]
      simp [webStates]

/-- A service that numbers its entries. -/
structure RecentlyClosed where
  entries : List (Nat × Nat)
  next : Nat
  below : ∀ entry ∈ entries, entry.1 < next
  distinct : (entries.map Prod.fst).Nodup

def recentlyClosed : TabRestoreService RecentlyClosed (Nat × Nat) Nat where
  entries := RecentlyClosed.entries
  id := Prod.fst
  createHistoricalTab service tab _ :=
    { entries := (service.next, tab) :: service.entries
      next := service.next + 1
      below := by
        intro entry mem
        rcases List.mem_cons.mp mem with rfl | mem
        · exact Nat.lt_succ_self _
        · exact Nat.lt_succ_of_lt (service.below entry mem)
      distinct := by
        refine List.nodup_cons.mpr ⟨fun mem => ?_, service.distinct⟩
        obtain ⟨entry, mem, same⟩ := List.mem_map.mp mem
        exact absurd (service.below entry mem) (by rw [same]; exact Nat.lt_irrefl _) }
  removeTabEntryById service sessionID :=
    { entries := service.entries.filter fun entry => entry.1 ≠ sessionID
      next := service.next
      below := fun entry mem => service.below entry (List.mem_filter.mp mem).1
      distinct := service.distinct.sublist (List.filter_sublist.map Prod.fst) }
  distinct := RecentlyClosed.distinct
  created _ _ _ := ⟨_, rfl⟩
  removed _ _ := rfl

/-- Two tabs, the second of which was opened by the first, and an entry of a third one. -/
def twoTabs : GridClosing Nat Unit RecentlyClosed where
  webStateList := ⟨[⟨1, .null⟩, ⟨2, ⟨some 1, 4⟩⟩], 1⟩
  impl _ := ⟨.empty, (), none⟩
  tabRestoreService := some ⟨[(0, 9)], 1, by decide, by decide⟩
  closedSessionWindow := none
  closedTabsCount := 0

theorem undo_saveAndClose_twoTabs :
    ∃ closed undone,
      saveAndCloseAllItems recentlyClosed true (fun _ => ⟨2, some "example.test"⟩) (fun _ => 0)
        twoTabs = some closed ∧
      undoCloseAllItems recentlyClosed true (fun _ => 0) (fun call => call) closed = some undone ∧
      SameTabs true twoTabs undone ∧ SameEntries recentlyClosed twoTabs undone := by
  have wf : twoTabs.webStateList.WellFormed :=
    ⟨.inr (by decide), by decide, by decide, by decide⟩
  have proper : ∀ wrapper ∈ twoTabs.webStateList.webStateWrappers,
      wrapper.opener.opener ≠ some wrapper.webState := by decide
  obtain ⟨closed, undone, closing, undoing, same⟩ := @undo_saveAndClose_iff _ _ _ _ _
    recentlyClosed true _ _ _ wf proper (.inr (by decide)) (fun noTabs => by cases noTabs)
    (fun _ _ same => same) (fun _ => 0) (fun _ => 0)
  refine ⟨closed, undone, closing, undoing, same.mpr ⟨?_, ?_⟩⟩
  · simp [KeepsOpeners, twoTabs]
  · exact fun _ _ => .inr (by decide)

/-- The second tab shows a new tab page only: the entry that was there before is lost. -/
theorem undo_saveAndClose_newTabPage :
    ∃ closed undone,
      saveAndCloseAllItems recentlyClosed true
        (fun webState => if webState = 1 then ⟨2, some "example.test"⟩ else ⟨1, some "newtab"⟩)
        (fun _ => 0) twoTabs = some closed ∧
      undoCloseAllItems recentlyClosed true (fun _ => 0) (fun call => call) closed = some undone ∧
      ¬ SameEntries recentlyClosed twoTabs undone := by
  have entries : ((saveAndCloseAllItems recentlyClosed true
      (fun webState => if webState = 1 then ⟨2, some "example.test"⟩ else ⟨1, some "newtab"⟩)
      (fun _ => 0) twoTabs).bind fun closed =>
        (undoCloseAllItems recentlyClosed true (fun _ => 0) (fun call => call) closed).map
          fun undone => undone.tabRestoreService.map RecentlyClosed.entries) =
            some (some []) := by
    rfl
  obtain ⟨closed, closing, entries⟩ := Option.bind_eq_some_iff.mp entries
  obtain ⟨undone, undoing, entries⟩ := Option.map_eq_some_iff.mp entries
  refine ⟨closed, undone, closing, undoing, fun same => ?_⟩
  have lost : some [] = some [(0, 9)] := entries.symm.trans same
  cases lost

end GridClosing

end ChromiumIos
