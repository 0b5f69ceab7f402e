import ChromiumIos.Navigation.RestoreStarts
import ChromiumIos.Navigation.WKNavigationOffsets

/-!
# Leaving the detached state

A detached manager starts again from its cache when it is asked to load, to reload or to go to
an index.  All of them restore what is cached, with an early return for a cache without items
that the assertion behind it does not foresee.  The item of a window that was opened without a
URL counts as an item but is not cached, and stays when everything else is removed.
-/

namespace ChromiumIos.WKNavigationManager

open Lib

variable {env : NavigationEnvironment} {codec : SessionCodec} {baseUrl : String}
variable {manager after : WKNavigationManager}

def StartsRestore (env : NavigationEnvironment) (codec : SessionCodec) (baseUrl : String)
    (rewriters : List URLRewriter) (operation : Run Unit) (manager : WKNavigationManager)
    (index : Int) (items : List NavigationItem) : Prop :=
  manager.isRestoreSessionInProgress = false ∧
    ∃ after, operation manager = some ((), after) ∧
      RestoreStarted env codec baseUrl rewriters index items after

/-! ## Reads of a detached manager -/

variable (detached : manager.attachedToWebView = false)
include detached

theorem getItemAtIndex_detached (index : Int) :
    ∃ item, getItemAtIndex env index manager = some (item, manager) ∧
      (manager.emptyWindowOpenItem = none → item = at? manager.cachedItems index) := by
  rw [getItemAtIndex_eq]
  cases window : manager.emptyWindowOpenItem with
  | some _ => exact ⟨_, rfl, nofun⟩
  | none =>
    dsimp only
    split
    · next negative => exact ⟨none, rfl, fun _ => (at?_of_neg _ negative).symm⟩
    · next nonneg =>
        grind [read_detached, at?_of_nonneg]

/-- No read changes a detached manager. -/
theorem keeps_getItemAtIndex (index : Int) :
    Keeps (· = manager) (getItemAtIndex env index) := by
  rintro state item after rfl read
  obtain ⟨_, same, _⟩ := @getItemAtIndex_detached env _ detached index
  grind

theorem keeps_getPreviousItem : Keeps (· = manager) (getPreviousItem env) := by
  refine (keeps_getPendingItem (keeps_getItemAtIndex detached)).bind fun pendingItem => ?_
  cases pendingItem with
  | some _ => exact .pure _
  | none => exact keeps_getLastCommittedItem (keeps_getItemAtIndex detached)

omit detached

/-! ## What is reloaded -/

def cachedPendingItem (manager : WKNavigationManager) : Option NavigationItem :=
  if manager.pendingItemIndex = -1 then manager.pendingItem
  else at? manager.cachedItems manager.pendingItemIndex

def cachedLastCommittedItem (env : NavigationEnvironment)
    (manager : WKNavigationManager) : Option NavigationItem :=
  (at? manager.cachedItems manager.getLastCommittedItemIndexInCurrentOrRestoredSession).filter
    fun item => !env.isRestoreSessionUrl item.url

include detached

variable (ready : ReadyToRestore manager)
include ready

theorem getPendingItem_detached :
    getPendingItem env manager = some (manager.cachedPendingItem, manager) := by
  unfold getPendingItem getPendingItemInCurrentOrRestoredSession cachedPendingItem
  rw [Stateful.run_get, ready.idle]
  change ((get >>= _ : Run (Option NavigationItem))) manager = _
  rw [Stateful.run_get]
  split
  · rfl
  · obtain ⟨_, read, same⟩ := @getItemAtIndex_detached env _ detached
      manager.pendingItemIndex
    rw [read, same ready.noWindow]

/-- The last committed item is not found where none is known although there are items. -/
theorem getLastCommittedItemInCurrentOrRestoredSession_detached
    (nonempty : manager.cachedItems ≠ []) :
    getLastCommittedItemInCurrentOrRestoredSession env manager =
      if manager.getLastCommittedItemIndexInCurrentOrRestoredSession = -1 then none
      else some (at? manager.cachedItems
        manager.getLastCommittedItemIndexInCurrentOrRestoredSession, manager) := by
  have counted : ¬ manager.getItemCount = 0 := by
    simp [getItemCount, getBackForwardListItemCount, ready.noWindow, detached, nonempty]
  unfold getLastCommittedItemInCurrentOrRestoredSession
  rw [Stateful.run_get, ready.noWindow]
  dsimp only
  split
  · rw [Stateful.run_dcheck, if_neg counted]
  · obtain ⟨_, read, same⟩ := @getItemAtIndex_detached env _ detached
      manager.getLastCommittedItemIndexInCurrentOrRestoredSession
    rw [read, same ready.noWindow]

theorem getLastCommittedItem_detached (nonempty : manager.cachedItems ≠ []) :
    getLastCommittedItem env manager =
      if manager.getLastCommittedItemIndexInCurrentOrRestoredSession = -1 then none
      else some (cachedLastCommittedItem env manager, manager) := by
  have found := @getLastCommittedItemInCurrentOrRestoredSession_detached env _ detached
    ready nonempty
  unfold getLastCommittedItem
  rw [Stateful.run_get, ready.idle]
  change ((getLastCommittedItemInCurrentOrRestoredSession env) manager).bind _ = _
  rw [found]
  split
  · rfl
  · rfl

omit ready

omit detached

/-- Something is reloaded: the transient item, the pending one, or a last committed item that is
not the page that restores sessions. -/
def HasItemToReload (env : NavigationEnvironment) (manager : WKNavigationManager) : Prop :=
  manager.transientItem ≠ none ∨ manager.cachedPendingItem ≠ none ∨
    cachedLastCommittedItem env manager ≠ none

/-- The manager when its reload comes to the restore.  A reload of the original request has put
the URL of the request back. -/
def reloaded (env : NavigationEnvironment) (originalRequestUrl : Bool)
    (manager : WKNavigationManager) : WKNavigationManager :=
  match manager.transientItem, manager.cachedPendingItem,
      cachedLastCommittedItem env manager with
  | some item, _, _ => { manager with transientItem := some (reloadedItem originalRequestUrl item) }
  | none, some item, _ => manager.writePendingItem (reloadedItem originalRequestUrl item)
  | none, none, some item => manager.writeLastCommittedItem (reloadedItem originalRequestUrl item)
  | none, none, none => manager

structure SameCache (before after : WKNavigationManager) : Prop where
  detached : after.attachedToWebView = before.attachedToWebView
  length : after.cachedItems.length = before.cachedItems.length
  current : after.cachedCurrentItemIndex = before.cachedCurrentItemIndex
  rewriters : after.transientUrlRewriters = before.transientUrlRewriters
  ready : ReadyToRestore after ↔ ReadyToRestore before

theorem SameCache.withTransientItem (manager : WKNavigationManager)
    (item : Option NavigationItem) :
    SameCache manager { manager with transientItem := item } where
  detached := rfl
  length := rfl
  current := rfl
  rewriters := rfl
  ready := readyToRestore_congr rfl rfl rfl

theorem SameCache.writeItemAtIndex (detached : manager.attachedToWebView = false) (index : Int)
    (item : NavigationItem) : SameCache manager (manager.writeItemAtIndex index item) := by
  unfold WKNavigationManager.writeItemAtIndex
  split
  · next window =>
      refine ⟨rfl, rfl, rfl, rfl, fun ready => ?_, fun ready => ?_⟩
      · cases ready.noWindow
      · simp [ready.noWindow] at window
  · rw [if_neg (by simp [detached])]
    exact ⟨rfl, List.length_set, rfl, rfl, readyToRestore_congr rfl rfl rfl⟩

theorem SameCache.writePendingItem (detached : manager.attachedToWebView = false)
    (item : NavigationItem) : SameCache manager (manager.writePendingItem item) := by
  unfold WKNavigationManager.writePendingItem
  split
  · exact ⟨rfl, rfl, rfl, rfl, readyToRestore_congr rfl rfl rfl⟩
  · exact .writeItemAtIndex detached _ item

theorem SameCache.reloaded (detached : manager.attachedToWebView = false)
    (originalRequestUrl : Bool) :
    SameCache manager (reloaded env originalRequestUrl manager) := by
  unfold WKNavigationManager.reloaded
  split
  · exact .withTransientItem manager _
  · exact .writePendingItem detached _
  · exact .writeItemAtIndex detached _ _
  · exact ⟨rfl, rfl, rfl, rfl, Iff.rfl⟩

variable {item : NavigationItem} {index : Int}

/-- Writing an item back changes nothing. -/
theorem cachedItems_set (found : at? manager.cachedItems index = some item) :
    manager.cachedItems.set index.toNat item = manager.cachedItems := by
  cases index with
  | negSucc _ => cases found
  | ofNat _ =>
    obtain ⟨_, same⟩ := List.getElem?_eq_some_iff.mp found
    simp [← same]

include detached

include ready

/-- Other reloads come to the restore with exactly what was cached. -/
theorem reloaded_false :
    (reloaded env false manager).cachedItems = manager.cachedItems := by
  have written : ∀ {index : Int} {item : NavigationItem},
      at? manager.cachedItems index = some item →
        (manager.writeItemAtIndex index item).cachedItems = manager.cachedItems := by
    intro index item found
    unfold writeItemAtIndex
    rw [ready.noWindow, detached]
    exact cachedItems_set found
  unfold reloaded
  split
  · rfl
  · next item pending =>
      unfold cachedPendingItem at pending
      unfold writePendingItem
      split
      · rfl
      · next historic =>
          rw [if_neg historic] at pending
          exact written pending
  · next item _ committed => exact written (Option.filter_eq_some_iff.mp committed).1
  · rfl

omit ready

omit detached


/-! ## Loading what is cached -/

theorem startsRestore_restoreCachedItems (knows : KnowsRestorePage env baseUrl)
    (detached : manager.attachedToWebView = false) (index : Int) :
    StartsRestore env codec baseUrl manager.transientUrlRewriters
        (restoreCachedItems env codec baseUrl index) manager index manager.cachedItems ↔
      ReadyToRestore manager ∧ (0 ≤ index ∧ index < manager.cachedItems.length) ∧
        FitsWindow index manager.cachedItems.length := by
  rw [← restoreCachedItems_iff knows detached index]
  constructor
  · exact fun starts => starts.2
  · intro restores
    exact ⟨((restoreCachedItems_iff knows detached index).mp restores).1.idle, restores⟩

include detached

theorem getCurrentItemIndex_detached :
    manager.getCurrentItemIndex = manager.cachedCurrentItemIndex := by
  simp [getCurrentItemIndex, detached]

theorem loadIfNecessary_detached :
    loadIfNecessary env codec baseUrl manager =
      restoreCachedItems env codec baseUrl manager.cachedCurrentItemIndex manager := by
  unfold loadIfNecessary
  rw [Stateful.run_get, if_pos (by simp [detached]), getCurrentItemIndex_detached detached]

/-! ## Reloading -/

theorem finishReload_detached :
    finishReload env codec baseUrl manager =
      restoreCachedItems env codec baseUrl manager.cachedCurrentItemIndex manager := by
  unfold finishReload
  rw [Stateful.run_get, if_pos (by simp [detached]), getCurrentItemIndex_detached detached]

omit detached

variable {params : WebLoadParams} {originalRequestUrl : Bool} {result : Unit}

include detached

/-- A reload that attaches the manager comes to a restore, with the cache as it was or one item
of it changed. -/
theorem reload_run
    (ran : reload env codec baseUrl originalRequestUrl manager = some (result, after))
    (attached : after.attachedToWebView = true) :
    ∃ middle, SameCache manager middle ∧
      restoreCachedItems env codec baseUrl manager.cachedCurrentItemIndex middle =
        some ((), after) := by
  have finishes : ∀ {middle}, SameCache manager middle →
      finishReload env codec baseUrl middle = some (result, after) →
        ∃ middle, SameCache manager middle ∧
          restoreCachedItems env codec baseUrl manager.cachedCurrentItemIndex middle =
            some ((), after) := by
    intro middle same finished
    grind [finishReload_detached (same.detached.trans detached), same.current]
  unfold reload at ran
  rw [Stateful.run_get] at ran
  split at ran
  · cases ran
    grind
  · cases covered : manager.transientItem with
    | some _ =>
      rw [covered] at ran
      exact finishes (.withTransientItem manager _) ran
    | none =>
      rw [covered] at ran
      obtain ⟨pending, read, reading, ran⟩ := Stateful.bind_run ran
      cases keeps_getPendingItem (keeps_getItemAtIndex detached) rfl reading
      cases pending with
      | some _ => exact finishes (.writePendingItem detached _) ran
      | none =>
        obtain ⟨committed, read, reading, ran⟩ := Stateful.bind_run ran
        cases keeps_getLastCommittedItem (keeps_getItemAtIndex detached) rfl reading
        cases committed with
        | some _ => exact finishes (.writeItemAtIndex detached _ _) ran
        | none =>
          cases ran
          grind

include ready

/-- A manager that is ready to restore and has something to reload comes to the restore. -/
theorem reload_ready (nonempty : manager.cachedItems ≠ []) (originalRequestUrl : Bool)
    (something : HasItemToReload env manager) :
    reload env codec baseUrl originalRequestUrl manager =
      restoreCachedItems env codec baseUrl manager.cachedCurrentItemIndex
        (reloaded env originalRequestUrl manager) := by
  have same := @SameCache.reloaded env manager detached originalRequestUrl
  have finished := @finishReload_detached env codec baseUrl _
    (same.detached.trans detached)
  rw [same.current] at finished
  rw [← finished]
  unfold reload reloaded
  rw [Stateful.run_get, if_neg (by simp [ready.idle])]
  cases covered : manager.transientItem with
  | some _ => rfl
  | none =>
    dsimp only
    rw [Stateful.run_bind (getPendingItem_detached detached ready)]
    cases pending : manager.cachedPendingItem with
    | some _ => rfl
    | none =>
      have committed : cachedLastCommittedItem env manager ≠ none :=
        by grind [something.resolve_left]
      have known : manager.getLastCommittedItemIndexInCurrentOrRestoredSession ≠ -1 := by
        intro unknown
        apply committed
        unfold cachedLastCommittedItem
        rw [unknown]
        rfl
      have read := @getLastCommittedItem_detached env _ detached ready nonempty
      rw [if_neg known] at read
      dsimp only
      rw [Stateful.run_bind read]
      cases last : cachedLastCommittedItem env manager with
      | some _ => rfl
      | none => exact absurd last committed

theorem reload_nothing (nonempty : manager.cachedItems ≠ [])
    (nothing : ¬ HasItemToReload env manager)
    (ran : reload env codec baseUrl originalRequestUrl manager = some (result, after)) :
    after = manager := by
  unfold HasItemToReload at nothing
  push Not at nothing
  obtain ⟨uncovered, pending, committed⟩ := nothing
  unfold reload at ran
  rw [Stateful.run_get, if_neg (by simp [ready.idle]), uncovered] at ran
  dsimp only at ran
  rw [Stateful.run_bind (getPendingItem_detached detached ready), pending] at ran
  obtain ⟨_, _, reading, ran⟩ := Stateful.bind_run ran
  rw [getLastCommittedItem_detached detached ready nonempty] at reading
  split at reading
  · cases reading
  · cases reading
    rw [committed] at ran
    cases ran
    rfl

omit ready

omit detached

theorem startsRestore_reload (knows : KnowsRestorePage env baseUrl)
    (detached : manager.attachedToWebView = false) (originalRequestUrl : Bool) :
    StartsRestore env codec baseUrl manager.transientUrlRewriters
        (reload env codec baseUrl originalRequestUrl) manager
        manager.cachedCurrentItemIndex
        (reloaded env originalRequestUrl manager).cachedItems ↔
      ReadyToRestore manager ∧ (0 ≤ manager.cachedCurrentItemIndex ∧
        manager.cachedCurrentItemIndex < manager.cachedItems.length) ∧
        FitsWindow manager.cachedCurrentItemIndex manager.cachedItems.length ∧
        HasItemToReload env manager := by
  have same := @SameCache.reloaded env manager detached originalRequestUrl
  have restores := @restoreCachedItems_iff env codec baseUrl _ knows
    (same.detached.trans detached) manager.cachedCurrentItemIndex
  rw [same.rewriters, same.ready, same.length] at restores
  constructor
  · rintro ⟨idle, after, ran, started⟩
    obtain ⟨middle, unchanged, restored⟩ := reload_run detached ran started.attached
    obtain ⟨ready, inside, fits⟩ :=
      restoreCachedItems_run (unchanged.detached.trans detached) restored
    rw [unchanged.length] at inside fits
    refine ⟨unchanged.ready.mp ready, inside, fits, ?_⟩
    by_contra nothing
    cases reload_nothing detached (unchanged.ready.mp ready) (ne_nil_of_inside inside) nothing ran
    cases detached.symm.trans started.attached
  · rintro ⟨ready, inside, fits, something⟩
    grind [StartsRestore, reload_ready, ready.idle]

/-! ## Going to an index -/

/-- The item that the user leaves is found: one is pending, or the index of the last committed one
is known. -/
def PreviousItemKnown (manager : WKNavigationManager) : Prop :=
  manager.cachedPendingItem ≠ none ∨
    manager.getLastCommittedItemIndexInCurrentOrRestoredSession ≠ -1

include detached

include ready

theorem getPreviousItem_returns (nonempty : manager.cachedItems ≠ []) :
    (∃ item, getPreviousItem env manager = some (item, manager)) ↔
      manager.PreviousItemKnown := by
  unfold getPreviousItem PreviousItemKnown
  rw [Stateful.run_bind (getPendingItem_detached detached ready)]
  cases pending : manager.cachedPendingItem with
  | some _ => exact iff_of_true ⟨_, rfl⟩ (.inl nofun)
  | none =>
    simp [getLastCommittedItem_detached detached ready nonempty]

omit ready

theorem finishGoToIndex_detached (index : Int) :
    finishGoToIndex env codec baseUrl index manager =
      restoreCachedItems env codec baseUrl index manager := by
  unfold finishGoToIndex
  rw [Stateful.run_get, if_pos (by simp [detached])]

/-- Only reads come before the restore. -/
theorem goToIndex_run
    (ran : goToIndex env codec baseUrl index manager = some (result, after)) :
    (∃ item, getPreviousItem env manager = some (item, manager)) ∧
      restoreCachedItems env codec baseUrl index manager = some (result, after) := by
  unfold goToIndex at ran
  rw [Stateful.run_get] at ran
  obtain ⟨_, ran⟩ := Stateful.dcheck_run ran
  obtain ⟨found, read, reading, ran⟩ := Stateful.bind_run ran
  cases keeps_getItemAtIndex detached index rfl reading
  obtain ⟨item, located, lifted, ran⟩ := Stateful.bind_run ran
  rw [(Stateful.lift_run lifted).2] at ran
  obtain ⟨previous, read, leaving, ran⟩ := Stateful.bind_run ran
  cases keeps_getPreviousItem detached rfl leaving
  grind [finishGoToIndex_detached]

include ready

theorem goToIndex_ready (inside : 0 ≤ index ∧ index < manager.cachedItems.length)
    (known : manager.PreviousItemKnown) :
    goToIndex env codec baseUrl index manager =
      restoreCachedItems env codec baseUrl index manager := by
  have nonempty := ne_nil_of_inside inside
  have valid : 0 ≤ index ∧ index < manager.getItemCount := by
    simp [getItemCount, getBackForwardListItemCount, ready.noWindow, detached, inside]
  obtain ⟨_, located⟩ := Option.isSome_iff_exists.mp ((at?_isSome_iff _ _).mpr inside)
  obtain ⟨_, reading, same⟩ := @getItemAtIndex_detached env _ detached index
  rw [same ready.noWindow, located] at reading
  obtain ⟨_, leaving⟩ :=
    (@getPreviousItem_returns env _ detached ready nonempty).mpr known
  unfold goToIndex
  rw [Stateful.run_get, Stateful.run_dcheck, if_pos valid, Stateful.run_bind reading,
    Stateful.run_bind (Stateful.run_lift rfl _), Stateful.run_bind leaving,
    finishGoToIndex_detached detached]

omit ready

omit detached

theorem startsRestore_goToIndex (knows : KnowsRestorePage env baseUrl)
    (detached : manager.attachedToWebView = false) (index : Int) :
    StartsRestore env codec baseUrl manager.transientUrlRewriters
        (goToIndex env codec baseUrl index) manager index manager.cachedItems ↔
      ReadyToRestore manager ∧ (0 ≤ index ∧ index < manager.cachedItems.length) ∧
        FitsWindow index manager.cachedItems.length ∧ manager.PreviousItemKnown := by
  constructor
  · rintro ⟨idle, after, ran, started⟩
    obtain ⟨previous, restored⟩ := goToIndex_run detached ran
    obtain ⟨ready, inside, fits⟩ := restoreCachedItems_run detached restored
    have nonempty := ne_nil_of_inside inside
    exact ⟨ready, inside, fits, (getPreviousItem_returns detached ready nonempty).mp previous⟩
  · rintro ⟨ready, inside, fits, known⟩
    obtain ⟨after, restored, started⟩ :=
      (restoreCachedItems_iff knows detached index).mpr ⟨ready, inside, fits⟩
    rw [← goToIndex_ready detached ready inside known] at restored
    exact ⟨ready.idle, after, restored, started⟩

/-! ## Loading something else -/

include detached

/-- A load of a detached manager makes a new pending item. -/
theorem addPendingItem_detached {url : GURL} {referrer : Referrer} {transition : PageTransition}
    {initiationType : NavigationInitiationType} {option : UserAgentOverrideOption}
    (added : addPendingItem env url referrer transition initiationType option manager =
      some (result, after)) : ∃ item, after = manager.withPendingItem item := by
  have discarded : manager.discardNonCommittedItems.attachedToWebView = false := detached
  have cleared : { manager.discardNonCommittedItems with
    transientUrlRewriters := [] }.attachedToWebView = false := detached
  unfold addPendingItem at added
  rw [Stateful.run_modify] at added
  obtain ⟨_, read, reading, added⟩ := Stateful.bind_run added
  cases keeps_getLastCommittedItemInCurrentOrRestoredSession (keeps_getItemAtIndex discarded)
    rfl reading
  rw [Stateful.run_get] at added
  obtain ⟨_, read, creating, added⟩ := Stateful.bind_run added
  obtain ⟨_, rfl⟩ := Stateful.lift_run creating
  rw [Stateful.run_modify] at added
  obtain ⟨_, read, reading, added⟩ := Stateful.bind_run added
  cases keeps_lastItemWithUserAgentType (keeps_getItemAtIndex cleared) _ rfl reading
  obtain ⟨typed, _, typing, added⟩ := Stateful.bind_run added
  obtain ⟨_, rfl⟩ := Stateful.lift_run typing
  change (if (manager.withPendingItem typed).attachedToWebView = true then
    reuseCurrentItem env typed else pure () : Run Unit) (manager.withPendingItem typed) =
      _ at added
  have pending : ¬ (manager.withPendingItem typed).attachedToWebView = true := by
    change ¬ manager.attachedToWebView = true
    simp [detached]
  rw [if_neg pending] at added
  cases added
  exact ⟨typed, rfl⟩

theorem addItemForLoad_detached
    (added : addItemForLoad env params manager = some (result, after)) :
    ∃ item, after = manager.withPendingItem item := by
  obtain ⟨_, added⟩ := Stateful.dcheck_run added
  obtain ⟨_, _, adding, added⟩ := Stateful.bind_run added
  obtain ⟨item, rfl⟩ := addPendingItem_detached detached adding
  have still : (manager.withPendingItem item).attachedToWebView = false := detached
  rw [Stateful.run_bind (getPendingItem_withPendingItem manager item)] at added
  obtain ⟨_, read, reading, added⟩ := Stateful.bind_run added
  cases keeps_getLastCommittedItemInCurrentOrRestoredSession (keeps_getItemAtIndex still)
    rfl reading
  rw [Stateful.run_get] at added
  obtain ⟨_, added⟩ := Stateful.dcheck_run added
  obtain ⟨described, _, describing, added⟩ := Stateful.bind_run added
  obtain ⟨_, rfl⟩ := Stateful.lift_run describing
  cases added
  exact ⟨described, rfl⟩

omit detached

def itemsWithNew (manager : WKNavigationManager) (item : NavigationItem) : List NavigationItem :=
  manager.cachedItems.take (manager.cachedCurrentItemIndex + 1).toNat ++ [item]

theorem length_itemsWithNew (inRange : -1 ≤ manager.cachedCurrentItemIndex ∧
      manager.cachedCurrentItemIndex < manager.cachedItems.length) (item : NavigationItem) :
    ((manager.itemsWithNew item).length : Int) = manager.cachedCurrentItemIndex + 2 := by
  grind [itemsWithNew]

def releasedForNew (manager : WKNavigationManager) : WKNavigationManager :=
  { manager.discardNonCommittedItems with transientUrlRewriters := [], cachedItems := [] }

theorem releasedForNew_ready :
    ReadyToRestore manager.releasedForNew ↔ ReadyToRestore manager :=
  readyToRestore_congr rfl rfl rfl

include detached

/-- A load is a restore if something is cached, else it goes to the web view. -/
theorem finishLoadURLWithParams_detached (inRange : manager.CacheInRange) (item : NavigationItem) :
    finishLoadURLWithParams env codec baseUrl (manager.withPendingItem item) =
      if manager.cachedItems = [] then some ((), (manager.withPendingItem item).resetToAttached)
      else if 0 ≤ manager.cachedCurrentItemIndex then
        (do restore env codec baseUrl (manager.cachedCurrentItemIndex + 1)
              (manager.itemsWithNew item)
            dcheck (← get).attachedToWebView : Run Unit) manager.releasedForNew
      else none := by
  have notAttached : ¬ (manager.withPendingItem item).attachedToWebView = true := by
    change ¬ manager.attachedToWebView = true
    simp [detached]
  have count : (manager.withPendingItem item).getBackForwardListItemCount =
      manager.cachedItems.length := by
    unfold getBackForwardListItemCount
    rw [if_neg notAttached]
    rfl
  have upper := (inRange detached).2
  unfold finishLoadURLWithParams
  rw [Stateful.run_get]
  change (if (manager.withPendingItem item).attachedToWebView = true then _ else _ : Run Unit)
    (manager.withPendingItem item) = _
  have settled : (manager.withPendingItem item).pendingItemIndex = -1 := rfl
  have pending : (manager.withPendingItem item).pendingItem = some item := rfl
  rw [if_neg notAttached, Stateful.run_dcheck, if_pos settled, pending]
  dsimp only
  rw [count]
  by_cases empty : manager.cachedItems = []
  · rw [if_pos empty, if_neg (by simp [empty])]
    rfl
  · have some_cached : manager.cachedItems.length > 0 := List.length_pos_iff.mpr empty
    have releasing : releaseCachedItems (manager.withPendingItem item) =
        some (manager.cachedItems, { manager.withPendingItem item with cachedItems := [] }) := by
      unfold releaseCachedItems
      rw [Stateful.run_get, Stateful.run_dcheck, if_pos notAttached]
      rfl
    have current : (manager.withPendingItem item).getCurrentItemIndex =
        manager.cachedCurrentItemIndex := by
      unfold getCurrentItemIndex
      rw [if_neg notAttached]
      rfl
    rw [if_neg empty, if_pos some_cached, Stateful.run_bind releasing, current,
      Stateful.run_dcheck]
    by_cases known : 0 ≤ manager.cachedCurrentItemIndex
    · have next : manager.cachedCurrentItemIndex + 1 > 0 := by omega
      have bounded : manager.cachedCurrentItemIndex + 1 ≤ manager.cachedItems.length := by omega
      rw [if_pos next, Stateful.run_dcheck, if_pos bounded, Stateful.run_modify, if_pos known]
      rfl
    · rw [if_neg (by omega), if_neg known]

omit detached

theorem startsRestore_loadURLWithParams (knows : KnowsRestorePage env baseUrl)
    (detached : manager.attachedToWebView = false) (inRange : manager.CacheInRange)
    (added : addItemForLoad env params manager =
      some ((), manager.withPendingItem item)) :
    StartsRestore env codec baseUrl []
        (loadURLWithParams env codec baseUrl params) manager
        (manager.cachedCurrentItemIndex + 1) (manager.itemsWithNew item) ↔
      ReadyToRestore manager ∧ 0 ≤ manager.cachedCurrentItemIndex := by
  have length := length_itemsWithNew (inRange detached) item
  have finishes := @finishLoadURLWithParams_detached env codec baseUrl _ detached inRange
    item
  have loads : manager.isRestoreSessionInProgress = false →
      loadURLWithParams env codec baseUrl params manager =
        finishLoadURLWithParams env codec baseUrl (manager.withPendingItem item) := by
    intro idle
    have atOnce : ¬ (manager.isRestoreSessionInProgress = true ∧
      ¬ env.isRestoreSessionUrl params.url = true) := by simp [idle]
    unfold loadURLWithParams
    rw [Stateful.run_get, if_neg atOnce, Stateful.run_bind added]
  constructor
  · rintro ⟨idle, after, ran, started⟩
    rw [loads idle, finishes] at ran
    split at ran
    · cases ran
      cases idle.symm.trans started.inProgress
    · split at ran
      · next known =>
          obtain ⟨_, restored, restoring, ran⟩ := Stateful.bind_run ran
          obtain ⟨_, rfl⟩ := Stateful.lift_run ran
          have released : manager.releasedForNew.attachedToWebView = false := detached
          exact ⟨releasedForNew_ready.mp (restore_detached released restoring started.attached).1,
            known⟩
      · cases ran
  · rintro ⟨ready, known⟩
    have inside : 0 ≤ manager.cachedCurrentItemIndex + 1 ∧
        manager.cachedCurrentItemIndex + 1 < (manager.itemsWithNew item).length := by omega
    have fits : FitsWindow (manager.cachedCurrentItemIndex + 1)
        (manager.itemsWithNew item).length := by
      rintro ⟨-, distance⟩
      have half : (kMaxSessionSize / 2 : Nat) = 37 := rfl
      omega
    have upper := (inRange detached).2
    have nonempty := ne_nil_of_inside ⟨known, upper⟩
    obtain ⟨after, restored, started⟩ := @restore_starts env codec baseUrl _ _ _
      knows (releasedForNew_ready.mpr ready) inside fits
    refine ⟨ready.idle, after, ?_, started⟩
    rw [loads ready.idle, finishes, if_neg nonempty, if_pos known, Stateful.run_bind restored,
      Stateful.run_get]
    exact Stateful.run_lift (dcheck_of started.attached) _

/-! ## Every reachable state -/

/-- From a detached state of any history each of the operations restores what is cached exactly
if the manager is ready, the cache has an item at the index and the session that is sent ends
inside the cache.  A reload needs something to reload, and going to an index an item to leave. -/
theorem detached_startsRestore_iff (knows : KnowsRestorePage env baseUrl)
    (reachable : Reachable env codec baseUrl manager)
    (detached : manager.attachedToWebView = false) :
    (StartsRestore env codec baseUrl manager.transientUrlRewriters
        (loadIfNecessary env codec baseUrl) manager manager.cachedCurrentItemIndex
        manager.cachedItems ↔
      ReadyToRestore manager ∧ 0 ≤ manager.cachedCurrentItemIndex ∧
        FitsWindow manager.cachedCurrentItemIndex manager.cachedItems.length) ∧
    (∀ originalRequestUrl,
      StartsRestore env codec baseUrl manager.transientUrlRewriters
          (reload env codec baseUrl originalRequestUrl) manager
          manager.cachedCurrentItemIndex
          (reloaded env originalRequestUrl manager).cachedItems ↔
        ReadyToRestore manager ∧ 0 ≤ manager.cachedCurrentItemIndex ∧
          FitsWindow manager.cachedCurrentItemIndex manager.cachedItems.length ∧
          HasItemToReload env manager) ∧
    (ReadyToRestore manager →
      (reloaded env false manager).cachedItems = manager.cachedItems) ∧
    (∀ index, 0 ≤ index → index < manager.getItemCount →
      (StartsRestore env codec baseUrl manager.transientUrlRewriters
          (goToIndex env codec baseUrl index) manager index manager.cachedItems ↔
        ReadyToRestore manager ∧ FitsWindow index manager.cachedItems.length ∧
          manager.PreviousItemKnown)) ∧
    ∀ params loaded, addItemForLoad env params manager = some ((), loaded) →
      ∃ item, loaded.pendingItem = some item ∧
        (StartsRestore env codec baseUrl []
            (loadURLWithParams env codec baseUrl params) manager
            (manager.cachedCurrentItemIndex + 1) (manager.itemsWithNew item) ↔
          ReadyToRestore manager ∧ 0 ≤ manager.cachedCurrentItemIndex) := by
  have inRange := reachable.cacheInRange
  have upper := (inRange detached).2
  refine ⟨?_, fun originalRequestUrl => ?_, reloaded_false detached, fun index lower below => ?_,
    fun params loaded added => ?_⟩
  · have restores := @startsRestore_restoreCachedItems env codec baseUrl _ knows detached
      manager.cachedCurrentItemIndex
    simpa [StartsRestore, loadIfNecessary_detached detached, upper] using restores
  · grind [startsRestore_reload]
  · rw [startsRestore_goToIndex knows detached index]
    refine ⟨fun ⟨ready, _, rest⟩ => ⟨ready, rest⟩, fun ⟨ready, rest⟩ => ⟨ready, ⟨lower, ?_⟩, rest⟩⟩
    simpa [getItemCount, getBackForwardListItemCount, ready.noWindow, detached] using below
  · obtain ⟨item, rfl⟩ := addItemForLoad_detached detached added
    exact ⟨item, rfl, startsRestore_loadURLWithParams knows detached inRange added⟩

/-! ## Three pages, none, and a window without a URL -/

theorem knowsRestorePage_restore : KnowsRestorePage restoringEnvironment "restore" := by
  rintro ⟨_, ref⟩ rfl
  simp [restoringEnvironment]

def removedAtSecond : WKNavigationManager :=
  stateWithRestores [.webViewChanges (some threeEntries), .removeWebView]

theorem removedAtSecond_ready : ReadyToRestore removedAtSecond where
  idle := by decide +kernel
  noWindow := by decide +kernel
  noHistory := by decide +kernel

theorem detached_startsRestore_iff_threeEntries :
    StartsRestore restoringEnvironment silentCodec "restore" []
      (loadIfNecessary restoringEnvironment silentCodec "restore") removedAtSecond 1
      removedAtSecond.cachedItems ∧
    StartsRestore restoringEnvironment silentCodec "restore" []
      (goToIndex restoringEnvironment silentCodec "restore" 2) removedAtSecond 2
      removedAtSecond.cachedItems := by
  have starts := @detached_startsRestore_iff restoringEnvironment silentCodec "restore"
    removedAtSecond knowsRestorePage_restore
    ⟨_, performAll_stateWithRestores (by decide +kernel)⟩ (by decide +kernel)
  have length : removedAtSecond.cachedItems.length = 3 := by decide +kernel
  have current : removedAtSecond.cachedCurrentItemIndex = 1 := by decide +kernel
  have rewriters : removedAtSecond.transientUrlRewriters = [] := by decide +kernel
  have fits : ∀ index, FitsWindow index removedAtSecond.cachedItems.length := by
    rintro index ⟨long, _⟩
    rw [length] at long
    exact absurd long (by decide)
  have counted : (2 : Int) < removedAtSecond.getItemCount := by decide +kernel
  have known : removedAtSecond.PreviousItemKnown := by
    exact .inr (by decide +kernel)
  rw [current, rewriters] at starts
  have loads := starts.1.mpr ⟨removedAtSecond_ready, Int.one_nonneg, fits 1⟩
  grind

def blankWindow : WKWebView where
  url := ⟨"about:blank"⟩

def removedUnused : List Operation := [.webViewChanges (some blankWindow), .removeWebView]

def removedWindow : List Operation :=
  [.webViewChanges (some blankWindow),
    .addPendingItem ⟨"about:blank"⟩ ⟨.empty, referrerPolicyDefault⟩ PageTransition.link
      .browserInitiated .inherit,
    .commitPendingItem, .removeWebView]

/-- A manager without cached items fails an assertion when it is asked to load, and so does one
that goes to the item of a window without a URL. -/
theorem detached_failsToRestore :
    (Reachable restoringEnvironment silentCodec "restore" (stateWithRestores removedUnused) ∧
      (stateWithRestores removedUnused).attachedToWebView = false ∧
      (loadIfNecessary restoringEnvironment silentCodec "restore"
        (stateWithRestores removedUnused)).isNone) ∧
    Reachable restoringEnvironment silentCodec "restore" (stateWithRestores removedWindow) ∧
      (stateWithRestores removedWindow).attachedToWebView = false ∧
      (stateWithRestores removedWindow).getItemCount = 1 ∧
      (goToIndex restoringEnvironment silentCodec "restore" 0
        (stateWithRestores removedWindow)).isNone :=
  ⟨⟨⟨_, performAll_stateWithRestores (by decide +kernel)⟩, by decide +kernel, by decide +kernel⟩,
    ⟨_, performAll_stateWithRestores (by decide +kernel)⟩, by decide +kernel, by decide +kernel,
    by decide +kernel⟩

end ChromiumIos.WKNavigationManager
