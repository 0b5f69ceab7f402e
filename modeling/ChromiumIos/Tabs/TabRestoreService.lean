import ChromiumIos.WebStateList.Decomposition

/-!
# Recently closed tabs

A tab that leaves the list gets an entry of the restore service, unless it has no
navigation or has shown the new tab page only.  The service is known by what it does to
its entries: the entry of a tab is put before the others, and an entry is removed by its
identifier.  A list that is closed makes its entries from its last tab to its first.
-/

namespace ChromiumIos

open Lib

variable {Service Entry W : Type}

/-- What is relied on of `sessions::TabRestoreService`. -/
structure TabRestoreService (Service Entry W : Type) where
  entries : Service → List Entry
  id : Entry → Nat
  createHistoricalTab : Service → W → Int → Service
  removeTabEntryById : Service → Nat → Service
  distinct : ∀ service, ((entries service).map id).Nodup
  created : ∀ service tab atIndex, ∃ entry,
    entries (createHistoricalTab service tab atIndex) = entry :: entries service
  removed : ∀ service sessionID, entries (removeTabEntryById service sessionID) =
    (entries service).filter fun entry => id entry ≠ sessionID

def kChromeUINewTabHost : String := "newtab"

/-- What is read of the navigation of a tab: how many items there are, and the host of the virtual
URL of the item committed last. -/
structure TabNavigation where
  itemCount : Int
  lastCommittedItem : Option String
deriving DecidableEq, Repr

def TabNavigation.isRecorded (navigation : TabNavigation) : Bool :=
  if navigation.itemCount ≤ 1 then
    match navigation.lastCommittedItem with
    | none => false
    | some host => host ≠ kChromeUINewTabHost
  else true

namespace TabRestoreService

variable (api : TabRestoreService Service Entry W) (navigation : W → TabNavigation)

def isRecorded (webState : W) : Bool := (navigation webState).isRecorded

/-- There is no service where nothing is recorded. -/
def recordHistoryForWebState (restoreService : Option Service) (webState : W) (atIndex : Int) :
    Option Service :=
  restoreService.map fun service =>
    if isRecorded navigation webState then api.createHistoricalTab service webState atIndex
    else service

/-- What the observer of closing tabs does about a notification of the list. -/
def observe (restoreService : Option Service) : Notification W → Option Service
  | .willDetachAt webState index =>
    api.recordHistoryForWebState navigation restoreService webState index
  | _ => restoreService

def detaching (notifications : List (Notification W)) : List W :=
  notifications.filterMap fun notification =>
    match notification with
    | .willDetachAt webState _ => some webState
    | _ => none

def removeEntries (closedTabsCount : Nat) (service : Service) : Service :=
  (((api.entries service).take closedTabsCount).map api.id).foldl api.removeTabEntryById service

/-! ## Entries -/

/-- The tabs that are detached put their entries before those that there are. -/
theorem entries_observed (service : Service) (notifications : List (Notification W)) :
    ∃ observed, notifications.foldl (api.observe navigation) (some service) = some observed ∧
      ∃ recorded, api.entries observed = recorded ++ api.entries service ∧
        recorded.length = (detaching notifications).countP (isRecorded navigation) := by
  induction notifications generalizing service with
  | nil => exact ⟨service, rfl, [], rfl, rfl⟩
  | cons notification rest ih =>
    cases notification with
    | willDetachAt webState index =>
      rw [List.foldl_cons]
      have detached : detaching (.willDetachAt webState index :: rest) =
          webState :: detaching rest := rfl
      rw [detached]
      by_cases worthwhile : isRecorded navigation webState = true
      · have first : api.observe navigation (some service) (.willDetachAt webState index) =
            some (api.createHistoricalTab service webState index) :=
          congrArg some (if_pos worthwhile)
        obtain ⟨entry, created⟩ := api.created service webState index
        obtain ⟨observed, same, recorded, entries, length⟩ :=
          ih (api.createHistoricalTab service webState index)
        refine ⟨observed, first ▸ same, recorded ++ [entry], ?_, ?_⟩
        · simp [entries, created]
        · grind
      · have first : api.observe navigation (some service) (.willDetachAt webState index) =
            some service := congrArg some (if_neg worthwhile)
        simp [first, worthwhile, ih]
    | insertedAt | moved | replacedAt | detachedAt | willCloseAt | activatedAt => exact ih service

theorem observed_none (notifications : List (Notification W)) :
    notifications.foldl (api.observe navigation) none = none := by
  induction notifications with
  | nil => rfl
  | cons notification _ ih =>
    have first : api.observe navigation none notification = none := by
      cases notification <;> rfl
    rw [List.foldl_cons, first, ih]

/-- Removing the first entries one by one leaves the others. -/
theorem entries_removeEntries (closedTabsCount : Nat) (service : Service) :
    api.entries (api.removeEntries closedTabsCount service) =
      (api.entries service).drop closedTabsCount := by
  have all : ∀ (first rest : List Entry) (service : Service),
      api.entries service = first ++ rest →
        api.entries ((first.map api.id).foldl api.removeTabEntryById service) = rest := by
    intro first
    induction first with
    | nil => exact fun rest service same => same
    | cons _ _ ih =>
      intro rest service same
      have distinct := api.distinct service
      rw [same, List.cons_append, List.map_cons, List.nodup_cons] at distinct
      refine ih rest _ ?_
      rw [api.removed, same, List.cons_append, List.filter_cons_of_neg (by simp)]
      refine List.filter_eq_self.mpr fun other mem => decide_eq_true fun clash => ?_
      grind
  exact all _ _ service (List.take_append_drop closedTabsCount _).symm

end TabRestoreService

/-! ## Closing all tabs -/

namespace WebStateList

variable [DecidableEq W] {list after : WebStateList W} {notifications : List (Notification W)}

open TabRestoreService

omit [DecidableEq W] in
theorem detaching_append (first rest : List (Notification W)) :
    detaching (first ++ rest) = detaching first ++ detaching rest :=
  List.filterMap_append

variable {closeFlags : Flags} {lastCommitted : W → Int}

/-- Closing the last tab announces it and leaves the others. -/
theorem closeLast_detaching (wf : list.WellFormed)
    (nonempty : list.webStateWrappers.isEmpty = false)
    (returned : list.closeWebStateAt lastCommitted (list.count - 1) closeFlags =
      some (after, notifications)) :
    ∃ webState, detaching notifications = [webState] ∧
      list.webStates = after.webStates ++ [webState] := by
  have inside := containsIndex_last nonempty
  obtain ⟨detached, earlier, removed, rfl⟩ := closeWebStateAt_eq_some_iff.mp returned
  obtain ⟨-, -, erased⟩ := detachWebStateAt_effect False wf inside removed
  obtain ⟨wrapper, taken, rfl, cases⟩ := detachWebStateAt_cases wf inside removed
  refine ⟨wrapper.webState, ?_, ?_⟩
  · grind [detaching]
  · have found := at?_webStates_of_taken taken
    have position : (list.count - 1).toNat = list.webStates.length - 1 := by
      simp [webStates, count]
    rw [at?_of_nonneg _ inside.1, position] at found
    rw [erased, eraseAt, position, List.eraseIdx_length_sub_one]
    exact (List.dropLast_append_getLast? _ (List.getLast?_eq_getElem? ▸ found)).symm

/-- The tabs are detached from the last to the first. -/
theorem closeAllLoop_detaching {bound : Nat} (wf : list.WellFormed)
    (enough : list.webStateWrappers.length ≤ bound)
    (returned : closeAllLoop lastCommitted closeFlags bound list = some (after, notifications)) :
    detaching notifications = list.webStates.reverse := by
  induction bound generalizing list notifications with
  | zero =>
    cases returned
    simpa [detaching, webStates] using enough
  | succ _ _ =>
    rcases closeAllLoop_succ returned with ⟨empty, rfl, rfl⟩ |
      ⟨closed, first, more, nonempty, closedOne, closedRest, rfl⟩
    · rw [webStates, List.isEmpty_iff.mp empty]
      rfl
    · obtain ⟨webState, detached, split⟩ := closeLast_detaching wf nonempty closedOne
      have closedWf := (closeWebStateAt_chain False wf (containsIndex_last nonempty)
        closedOne).invariant wf Effect.wellFormed
      grind [webStates, List.length_map, detaching_append]

end WebStateList

end ChromiumIos
