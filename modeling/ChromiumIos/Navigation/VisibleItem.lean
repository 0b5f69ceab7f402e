import ChromiumIos.Navigation.SessionControllerInitiators
import ChromiumIos.Navigation.WKNavigationOffsets

/-!
# The visible item

The visible item is what the user takes the page to be.  Both managers show the
transient item first, then a pending item if it is a new navigation started by
the browser, and else the last committed item.  The manager that follows the web
view shows the item of a restored session before any of them, from the start of
the restore until a page has been committed.

A transient item is always made by the browser.  The history of the session
controller holds no item of a renderer, because committing an item forgets its
initiator; an item that is made for an entry of the web view keeps the renderer
as its initiator, and it is shown only as the last committed item.
-/

namespace ChromiumIos

open Lib

/-! ## The manager that follows the web view -/

namespace WKNavigationManager

variable {env : NavigationEnvironment} {codec : SessionCodec} {baseUrl : String}
variable {manager before after : WKNavigationManager} {item : NavigationItem}

/-- An item that is shown as it would be without any restore. -/
inductive Shown (env : NavigationEnvironment) (manager after : WKNavigationManager)
    (item : NavigationItem) : Prop where
  | transient (covers : manager.transientItem = some item)
      (browser : item.navigationInitiationType = .browserInitiated)
  | pending (new : manager.pendingItemIndex = -1) (loads : manager.pendingItem = some item)
      (browser : item.navigationInitiationType = .browserInitiated)
  | committed (last : getLastCommittedItem env after = some (some item, after))

/-! ### Transient items -/

def CoveredByBrowser (manager : WKNavigationManager) : Prop :=
  ∀ item, manager.transientItem = some item → item.navigationInitiationType = .browserInitiated

theorem CoveredByBrowser.of_same (covered : manager.CoveredByBrowser)
    (transient : after.transientItem = manager.transientItem) : after.CoveredByBrowser := by
  simpa [CoveredByBrowser, transient] using covered

theorem CoveredByBrowser.stable : Stable CoveredByBrowser where
  same := fun covered same => covered.of_same same.transient
  discards := fun _ _ shown => by cases shown
  covers := by
    grind [CoveredByBrowser]
  commits := fun covered => covered.of_same rfl
  starts := fun covered => covered.of_same rfl
  defers := fun covered => covered.of_same rfl
  detaches := fun covered _ _ => covered.of_same rfl
  attaches := fun covered => covered.of_same rfl

variable {operations : List Operation}

theorem coveredByBrowser_performAll
    (ran : performAll env codec baseUrl operations {} = some ((), manager)) :
    manager.CoveredByBrowser := by
  refine Keeps.forM (keeps_perform CoveredByBrowser.stable ?_ ?_) operations ?_ ran
  · exact fun _ covered => covered.of_same rfl
  · exact fun _ covered => covered.of_same rfl
  · intro item shown
    cases shown

/-! ### Reading the last committed item again -/

theorem getLastCommittedItemIndex_withItem (manager : WKNavigationManager) (position : Nat)
    (item : NavigationItem) :
    (manager.withItem position item).getLastCommittedItemIndexInCurrentOrRestoredSession =
      manager.getLastCommittedItemIndexInCurrentOrRestoredSession := by
  simp only [getLastCommittedItemIndexInCurrentOrRestoredSession]
  rw [((SameHistory.refl manager).withItem position item).currentItemIndex]
  rfl

variable {value : Option NavigationItem}

theorem getLastCommittedItemInCurrentOrRestoredSession_settles
    (read : getLastCommittedItemInCurrentOrRestoredSession env manager =
      some (value, after)) :
    after.isRestoreSessionInProgress = manager.isRestoreSessionInProgress ∧
      getLastCommittedItemInCurrentOrRestoredSession env after = some (value, after) := by
  have again := read
  unfold getLastCommittedItemInCurrentOrRestoredSession at read
  rw [Stateful.run_get] at read
  cases window : manager.emptyWindowOpenItem with
  | some item =>
    rw [window] at read
    cases read
    exact ⟨rfl, again⟩
  | none =>
    rw [window] at read
    dsimp only at read
    split at read
    · obtain ⟨-, read⟩ := Stateful.dcheck_run read
      cases read
      exact ⟨rfl, again⟩
    · rename_i committed
      have settled := getItemAtIndex_memoised.settles read
      rcases getItemAtIndex_state read with rfl | ⟨position, item, rfl⟩
      · exact ⟨rfl, again⟩
      · refine ⟨rfl, ?_⟩
        unfold getLastCommittedItemInCurrentOrRestoredSession
        rw [Stateful.run_get]
        have same : (manager.withItem position item).emptyWindowOpenItem = none := window
        simp [same, getLastCommittedItemIndex_withItem, committed, settled]

theorem getLastCommittedItem_settles
    (read : getLastCommittedItem env manager = some (value, after)) :
    getLastCommittedItem env after = some (value, after) := by
  have again := read
  unfold getLastCommittedItem at read
  rw [Stateful.run_get] at read
  split at read
  · cases read
    exact again
  · rename_i settled
    obtain ⟨found, middle, reading, read⟩ := Stateful.bind_run read
    cases read
    obtain ⟨restoring, reread⟩ := getLastCommittedItemInCurrentOrRestoredSession_settles reading
    unfold getLastCommittedItem
    rw [Stateful.run_get, restoring, if_neg settled, Stateful.run_bind reread]
    rfl

/-! ### The item of a restored session -/

def CommitsPage (env : NavigationEnvironment) (manager : WKNavigationManager)
    (operation : Operation) : Prop :=
  operation = .commitPendingItem ∧
    (manager.pendingItemIndex ≠ -1 ∨ manager.pendingItem ≠ none) ∧
    ∃ committed item last, commitPendingItem env manager = some ((), committed) ∧
      getLastCommittedItemInCurrentOrRestoredSession env committed =
        some (some item, last) ∧
      ¬ env.isRestoreSessionUrl item.url

/-- A run in which no page has been committed since a restore was in progress. -/
inductive SinceRestore (env : NavigationEnvironment) (codec : SessionCodec)
    (baseUrl : String) : List Operation → WKNavigationManager → Prop where
  | restoring {operations : List Operation} {manager : WKNavigationManager}
      (ran : performAll env codec baseUrl operations {} = some ((), manager))
      (inProgress : manager.isRestoreSessionInProgress = true) :
      SinceRestore env codec baseUrl operations manager
  | next {operations : List Operation} {operation : Operation}
      {before after : WKNavigationManager}
      (since : SinceRestore env codec baseUrl operations before)
      (performed : perform env codec baseUrl operation before = some ((), after))
      (noPage : ¬ CommitsPage env before operation) :
      SinceRestore env codec baseUrl (operations ++ [operation]) after

def RestoresAtMost (previous : Option NavigationItem) (manager : WKNavigationManager) : Prop :=
  manager.isRestoreSessionInProgress = true ∨ manager.restoredVisibleItem = previous ∨
    manager.restoredVisibleItem = none

theorem RestoresAtMost.of_same {previous : Option NavigationItem}
    (atMost : manager.RestoresAtMost previous)
    (restoring : after.isRestoreSessionInProgress = manager.isRestoreSessionInProgress)
    (restored : after.restoredVisibleItem = manager.restoredVisibleItem) :
    after.RestoresAtMost previous := by
  simp only [RestoresAtMost]
  rw [restoring, restored]
  exact atMost

theorem RestoresAtMost.stable (previous : Option NavigationItem) :
    Stable (RestoresAtMost previous) where
  same := fun atMost same => atMost.of_same same.restoring same.restored
  discards := fun atMost => atMost.of_same rfl rfl
  covers := fun atMost _ => atMost.of_same rfl rfl
  commits := fun _ => .inr (.inr rfl)
  starts := fun _ => .inl rfl
  defers := fun atMost => atMost.of_same rfl rfl
  detaches := fun atMost _ _ => atMost.of_same rfl rfl
  attaches := fun atMost => atMost.of_same rfl rfl

variable {operation : Operation}

theorem perform_restoresAtMost
    (performed : perform env codec baseUrl operation before = some ((), after)) :
    after.RestoresAtMost before.restoredVisibleItem := by
  have stable := RestoresAtMost.stable before.restoredVisibleItem
  by_cases ends : ∃ url, operation = .onRendererInitiatedNavigationStarted url
  · obtain ⟨url, rfl⟩ := ends
    refine onRendererInitiatedNavigationStarted_keeps stable performed (.inr (.inl rfl))
      (.inr (.inl rfl)) ?_
    exact fun _ atMost => atMost.of_same rfl rfl
  · have during : ∀ url, operation ≠ .onRendererInitiatedNavigationStarted url :=
      fun url same => ends ⟨url, same⟩
    have kept : Respects (withCallbacks []) _ (perform env codec baseUrl operation) :=
      respects_perform stable during
    exact kept.keeps (.inr (.inl rfl)) performed

/-- A commit of a page ends the time in which a restored item is shown. -/
theorem commitPendingItem_restoredVisibleItem (commits : CommitsPage env before operation)
    (performed : perform env codec baseUrl operation before = some ((), after)) :
    after.restoredVisibleItem = none := by
  obtain ⟨rfl, pending, committed, item, last, committing, read, notRestore⟩ := commits
  have same := committing.symm.trans performed
  cases same
  unfold commitPendingItem at committing
  rw [Stateful.run_get] at committing
  obtain ⟨-, committing⟩ := Stateful.dcheck_run committing
  rw [if_neg (by tauto)] at committing
  obtain ⟨_, stored, -, committing⟩ := Stateful.bind_run committing
  obtain ⟨_, moved, -, committing⟩ := Stateful.bind_run committing
  obtain ⟨found, middle, reading, reported⟩ := Stateful.bind_run committing
  obtain ⟨current, _, unwrapping, dropping⟩ := Stateful.bind_run reported
  obtain ⟨rfl, rfl⟩ := Stateful.lift_run unwrapping
  split at dropping
  · cases dropping
    rfl
  · rename_i restorePage
    cases dropping
    have reread := (getLastCommittedItemInCurrentOrRestoredSession_settles reading).2
    grind

theorem performAll_concat
    (ran : performAll env codec baseUrl (operations ++ [operation]) before =
      some ((), after)) :
    ∃ middle, performAll env codec baseUrl operations before = some ((), middle) ∧
      perform env codec baseUrl operation middle = some ((), after) := by
  change forM (operations ++ [operation]) (perform env codec baseUrl) before = _ at ran
  rw [List.forM_append] at ran
  obtain ⟨_, middle, first, ran⟩ := Stateful.bind_run ran
  obtain ⟨_, _, second, ran⟩ := Stateful.bind_run ran
  cases ran
  exact ⟨middle, first, second⟩

/-- In every run an item that counts as restored has been made visible by a restore, and
no page has been committed since that restore was in progress. -/
theorem sinceRestore_of_restoredVisibleItem (operations : List Operation)
    (ran : performAll env codec baseUrl operations {} = some ((), manager))
    (restored : manager.restoredVisibleItem ≠ none) :
    SinceRestore env codec baseUrl operations manager := by
  induction operations using List.reverseRecOn generalizing manager with
  | nil =>
    cases ran
    exact absurd rfl restored
  | append_singleton _ _ ih =>
    by_cases inProgress : manager.isRestoreSessionInProgress = true
    · exact .restoring ran inProgress
    · obtain ⟨before, earlier, performed⟩ := performAll_concat ran
      rcases perform_restoresAtMost performed with restoring | same | dropped
      · exact absurd restoring inProgress
      · rw [same] at restored
        refine .next (ih earlier restored) performed fun commits => ?_
        grind [commitPendingItem_restoredVisibleItem]
      · exact absurd dropped restored

/-! ### What is visible -/

theorem getVisibleItem_cases (covered : manager.CoveredByBrowser)
    (visible : getVisibleItem env manager = some (some item, after)) :
    Shown env manager after item ∨ manager.restoredVisibleItem = some item := by
  unfold getVisibleItem at visible
  rw [Stateful.run_get] at visible
  split at visible
  · exact .inr (Prod.mk.inj (Option.some.inj visible)).1
  · left
    cases covering : manager.transientItem with
    | some transientItem =>
      rw [covering] at visible
      cases visible
      exact .transient covering (covered item covering)
    | none =>
      rw [covering] at visible
      obtain ⟨pendingItem, middle, pending, visible⟩ := Stateful.bind_run visible
      cases pendingItem with
      | none => exact .committed (getLastCommittedItem_settles visible)
      | some pendingItem =>
        dsimp only at visible
        split at visible
        · rename_i safeToShow
          cases visible
          refine .pending safeToShow.2 ?_ safeToShow.1
          unfold getPendingItemInCurrentOrRestoredSession at pending
          rw [Stateful.run_get, if_pos safeToShow.2] at pending
          exact (Prod.mk.inj (Option.some.inj pending)).1
        · exact .committed (getLastCommittedItem_settles visible)

end WKNavigationManager

/-! ## The session controller -/

namespace SessionController

variable {controller : SessionController} {item : NavigationItem}

inductive Shown (controller : SessionController) (item : NavigationItem) : Prop where
  | transient (covers : controller.transientItem = some item)
  | pending (new : controller.pendingItemIndex = -1) (loads : controller.newPendingItem = some item)
      (browser : item.navigationInitiationType = .browserInitiated)
  | committed (last : controller.lastCommittedItem = some (some item))

theorem visibleItem_cases (visible : controller.visibleItem = some (some item)) :
    Shown controller item := by
  unfold visibleItem at visible
  cases covering : controller.transientItem with
  | some transientItem =>
    rw [covering] at visible
    cases visible
    exact .transient covering
  | none =>
    rw [covering] at visible
    obtain ⟨pendingItem, pending, visible⟩ := bind_eq_some visible
    cases pendingItem with
    | none => exact .committed visible
    | some pendingItem =>
      dsimp only at visible
      split at visible
      · rename_i safeToShow
        cases visible
        refine .pending safeToShow.2 ?_ safeToShow.1
        simpa [SessionController.pendingItem, if_pos safeToShow.2] using pending
      · exact .committed visible

theorem Shown.notByRenderer (shown : Shown controller item) (free : controller.FreeOfRenderer) :
    NotByRenderer item := by
  cases shown with
  | transient covers => exact free.transient item covers
  | pending _ _ browser => simp [NotByRenderer, browser]
  | committed last => exact free.history item (mem_of_lastCommittedItem last)

end SessionController

/-! ## Both managers -/

section Runs

variable (env : NavigationEnvironment) (codec : SessionCodec) (baseUrl : String)

/-- In every run of the session controller the visible item is the transient item, a new
pending item started by the browser, or the last committed item, and no renderer has
started it.  In every run of the manager that follows the web view the visible item is
one of these, or it is the item of a restored session and no page has been committed
since the restore; an item that a renderer has started is shown only as the last
committed item or as the restored one. -/
theorem visibleItem_justified :
    (∀ controller item, SessionController.Reached env controller →
      controller.visibleItem = some (some item) →
      SessionController.Shown controller item ∧
        item.navigationInitiationType ≠ .rendererInitiated) ∧
    ∀ operations manager item after,
      WKNavigationManager.performAll env codec baseUrl operations {} =
        some ((), manager) →
      WKNavigationManager.getVisibleItem env manager = some (some item, after) →
      WKNavigationManager.Shown env manager after item ∨
        manager.restoredVisibleItem = some item ∧
          WKNavigationManager.SinceRestore env codec baseUrl operations manager := by
  constructor
  · intro controller item reached visible
    have shown := SessionController.visibleItem_cases visible
    exact ⟨shown, shown.notByRenderer reached.freeOfRenderer⟩
  · intro operations manager item after ran visible
    have covered := WKNavigationManager.coveredByBrowser_performAll ran
    rcases WKNavigationManager.getVisibleItem_cases covered visible with shown | restored
    · exact .inl shown
    · refine .inr ⟨restored, ?_⟩
      apply WKNavigationManager.sinceRestore_of_restoredVisibleItem operations ran
      rw [restored]
      exact Option.some_ne_none item

end Runs

/-! ## Three runs -/

open WKNavigationManager (stateWithRestores performAll_stateWithRestores)

def newLoad : SessionController.Operation :=
  .legacyAddPendingItem ⟨"b"⟩ ⟨.empty, 0⟩ PageTransition.link .browserInitiated .inherit

def newLoads : List WKNavigationManager.Operation :=
  [.addPendingItem ⟨"b"⟩ ⟨.empty, 0⟩ PageTransition.link .browserInitiated .inherit]

/-- A load started by the browser is visible in both managers before it is committed. -/
theorem visibleItem_justified_newLoad :
    (∃ controller item,
      SessionController.initWithBrowserState.perform restoringEnvironment newLoad =
        some controller ∧
      controller.visibleItem = some (some item) ∧
      SessionController.Shown controller item ∧
      item.navigationInitiationType ≠ .rendererInitiated) ∧
    ∃ item after,
      WKNavigationManager.getVisibleItem restoringEnvironment (stateWithRestores newLoads) =
        some (some item, after) ∧
      (WKNavigationManager.Shown restoringEnvironment (stateWithRestores newLoads) after item ∨
        (stateWithRestores newLoads).restoredVisibleItem = some item ∧
          WKNavigationManager.SinceRestore restoringEnvironment WKNavigationManager.silentCodec
            "restore" newLoads (stateWithRestores newLoads)) := by
  have justified := visibleItem_justified restoringEnvironment WKNavigationManager.silentCodec
    "restore"
  constructor
  · refine ⟨_, _, rfl, rfl, justified.1 _ _ ?_ rfl⟩
    have loaded : SessionController.initWithBrowserState.perform restoringEnvironment newLoad =
      some _ := rfl
    refine .next .empty ?_ loaded
    intro source copies
    cases copies
  · have visible : ((WKNavigationManager.getVisibleItem restoringEnvironment
        (stateWithRestores newLoads)).bind Prod.fst).isSome := by decide +kernel
    obtain ⟨item, visible⟩ := Option.isSome_iff_exists.mp visible
    obtain ⟨⟨_, after⟩, visible, rfl⟩ := Option.bind_eq_some_iff.mp visible
    refine ⟨item, after, visible, justified.2 _ _ _ _ ?_ visible⟩
    exact performAll_stateWithRestores (by decide +kernel)

def restoredItem : NavigationItem := { url := ⟨"a"⟩, title := "A" }

def endedRestore : List WKNavigationManager.Operation :=
  [.restore 0 [restoredItem], .onRendererInitiatedNavigationStarted ⟨"a"⟩]

/-- The renderer loads a page that it has opened itself once more. -/
def reloadedByRenderer : List WKNavigationManager.Operation :=
  [.webViewChanges (some ⟨⟨"a"⟩, .focused [] ⟨⟨"a"⟩, "A", none⟩ []⟩),
    .addPendingItem ⟨"a"⟩ ⟨.empty, 0⟩ PageTransition.link .rendererInitiated .inherit,
    .commitPendingItem,
    .addPendingItem ⟨"a"⟩ ⟨.empty, 0⟩ PageTransition.reload .rendererInitiated .inherit]

def itemOfRenderer : NavigationItem :=
  { originalRequestUrl := ⟨"a"⟩
    url := ⟨"a"⟩
    title := "A"
    timestamp := 1
    navigationInitiationType := .rendererInitiated }

/-- What a read returns, without the state it leaves. -/
def valueIn (operations : List WKNavigationManager.Operation)
    (read : WKNavigationManager.Run (Option NavigationItem)) : Option (Option NavigationItem) :=
  (read (stateWithRestores operations)).map Prod.fst

/-- A restored item is still visible when its restore is over, although it is neither
transient nor pending nor committed.  A pending item that is the last committed one at
the same time is visible although a renderer has started it. -/
theorem visibleItem_beyond_restore :
    (WKNavigationManager.performAll restoringEnvironment WKNavigationManager.silentCodec
        "restore" endedRestore {} = some ((), stateWithRestores endedRestore) ∧
      (stateWithRestores endedRestore).isRestoreSessionInProgress = false ∧
      valueIn endedRestore (WKNavigationManager.getVisibleItem restoringEnvironment) =
        some (some restoredItem) ∧
      (stateWithRestores endedRestore).transientItem = none ∧
      valueIn endedRestore (WKNavigationManager.getPendingItem restoringEnvironment) ≠
        some (some restoredItem) ∧
      valueIn endedRestore (WKNavigationManager.getLastCommittedItem restoringEnvironment) =
        some none) ∧
    WKNavigationManager.performAll restoringEnvironment WKNavigationManager.silentCodec
        "restore" reloadedByRenderer {} = some ((), stateWithRestores reloadedByRenderer) ∧
      itemOfRenderer.navigationInitiationType = .rendererInitiated ∧
      valueIn reloadedByRenderer (WKNavigationManager.getPendingItem restoringEnvironment) =
        some (some itemOfRenderer) ∧
      valueIn reloadedByRenderer (WKNavigationManager.getVisibleItem restoringEnvironment) =
        some (some itemOfRenderer) := by
  refine ⟨⟨performAll_stateWithRestores (by decide +kernel), ?_⟩,
    performAll_stateWithRestores (by decide +kernel), rfl, ?_⟩
  · decide +kernel
  · decide +kernel

end ChromiumIos
