import ChromiumIos.Navigation.PendingItem
import ChromiumIos.Navigation.WKNavigationOffsets

/-!
# Loads that wait for the end of a restore

A load that is asked for during a restore is kept as a copy of its parameters and
started when the restore ends.  Nothing reads the waiting loads before that, so
that the restore takes the course it would have taken without them, and the load
starts in the state in which it could have been asked for right after the restore.
The copy is the only difference: it has lost the virtual URL.
-/

namespace ChromiumIos.WKNavigationManager

open Lib

variable {env : NavigationEnvironment} {codec : SessionCodec} {baseUrl : String}
variable {manager before after : WKNavigationManager} {params : WebLoadParams}

/-! ## Loading outside a restore -/

/-- A manager that follows its web view, with no restore under way and no load waiting. -/
structure Settled (manager : WKNavigationManager) : Prop where
  attached : manager.attachedToWebView = true
  notRestoring : manager.isRestoreSessionInProgress = false
  callbacks : manager.restoreSessionCompletionCallbacks = []

theorem Settled.stable : HistoryStable Settled where
  same := fun settled same =>
    ⟨same.attached.trans settled.attached, same.restoring.trans settled.notRestoring,
      same.callbacks.trans settled.callbacks⟩
  discards := fun settled => ⟨settled.attached, settled.notRestoring, settled.callbacks⟩

theorem addItemForLoad_settled (settled : manager.Settled)
    (added : addItemForLoad env params manager = some ((), after)) : after.Settled := by
  have respects : Respects (withCallbacks []) Settled (addItemForLoad env params) :=
    respects_addItemForLoad Settled.stable params
  exact respects.keeps settled added

/-- All that such a manager does for a load is to add its item. -/
theorem loadURLWithParams_settled (settled : manager.Settled) (params : WebLoadParams) :
    loadURLWithParams env codec baseUrl params manager =
      addItemForLoad env params manager := by
  unfold loadURLWithParams
  rw [Stateful.run_get, if_neg (by simp [settled.notRestoring])]
  cases added : addItemForLoad env params manager with
  | none =>
    change (addItemForLoad env params manager).bind _ = none
    rw [added]
    rfl
  | some _ =>
    rw [Stateful.run_bind added]
    unfold finishLoadURLWithParams
    rw [Stateful.run_get, if_pos (addItemForLoad_settled settled added).attached]
    rfl

theorem forM_loadURLWithParams_settled (loads : List WebLoadParams) (settled : manager.Settled) :
    loads.forM (loadURLWithParams env codec baseUrl) manager =
      loads.forM (addItemForLoad env) manager := by
  induction loads generalizing manager with
  | nil => rfl
  | cons load _ _ =>
    change (loadURLWithParams env codec baseUrl load manager).bind _ =
      (addItemForLoad env load manager).bind _
    rw [loadURLWithParams_settled settled]
    cases added : addItemForLoad env load manager <;> grind [addItemForLoad_settled]

theorem forM_addItemForLoad_settled {loads : List WebLoadParams} (settled : manager.Settled)
    (added : loads.forM (addItemForLoad env) manager = some ((), after)) :
    after.Settled :=
  Keeps.forM (fun _ _ _ _ settled added => addItemForLoad_settled settled added) loads settled
    added

/-! ## The end of a restore -/

def withoutRestore (manager : WKNavigationManager) : WKNavigationManager :=
  { manager with isRestoreSessionInProgress := false, restoreSessionCompletionCallbacks := [] }

theorem withoutRestore_settled (attached : manager.attachedToWebView = true) :
    manager.withoutRestore.Settled :=
  ⟨attached, rfl, rfl⟩

theorem withCallbacks_withoutRestore (manager : WKNavigationManager) :
    withCallbacks manager.restoreSessionCompletionCallbacks manager.withoutRestore =
      { manager with isRestoreSessionInProgress := false } := by
  simp [withCallbacks, withoutRestore]

theorem Settled.clear (settled : manager.Settled) (earlier : List WebLoadParams) :
    { withCallbacks earlier manager with restoreSessionCompletionCallbacks := [] } = manager := by
  rw [← settled.callbacks]
  rfl

theorem alwaysStable : Stable fun _ => True :=
  ⟨⟨fun _ _ => trivial, fun _ => trivial⟩, fun _ _ => trivial, fun _ => trivial, fun _ => trivial,
    fun _ => trivial, fun _ _ _ => trivial, fun _ => trivial⟩

variable {url : GURL} {operations : List Operation}

/-- A restore of an attached manager ends by adding the items of the waiting loads. -/
theorem onRendererInitiatedNavigationStarted_eq (page : env.isRestoreSessionUrl url = false)
    (restoring : manager.isRestoreSessionInProgress = true)
    (attached : manager.attachedToWebView = true) :
    onRendererInitiatedNavigationStarted env codec baseUrl url manager =
      manager.restoreSessionCompletionCallbacks.forM (addItemForLoad env)
        manager.withoutRestore := by
  have settled := withoutRestore_settled attached
  have unnoticed : ∀ earlier, Commutes (withCallbacks earlier)
      (manager.restoreSessionCompletionCallbacks.forM
        (loadURLWithParams env codec baseUrl)) :=
    fun earlier => (Respects.forM (respects_loadURLWithParams alwaysStable) _).commutes
  unfold onRendererInitiatedNavigationStarted
  rw [Stateful.run_get, if_pos ⟨by simp [page], restoring⟩]
  have ending : (modify fun manager : WKNavigationManager =>
      { manager with isRestoreSessionInProgress := false } : Run PUnit) manager =
      some (PUnit.unit, withCallbacks manager.restoreSessionCompletionCallbacks
        manager.withoutRestore) := by
    rw [withCallbacks_withoutRestore]
    rfl
  rw [Stateful.run_bind ending]
  change (manager.restoreSessionCompletionCallbacks.forM
    (loadURLWithParams env codec baseUrl) (withCallbacks _ _)).bind _ = _
  rw [unnoticed, forM_loadURLWithParams_settled _ settled]
  cases added : manager.restoreSessionCompletionCallbacks.forM (addItemForLoad env)
    manager.withoutRestore with
  | none => rfl
  | some result =>
    obtain ⟨_, loaded⟩ := result
    have still := forM_addItemForLoad_settled settled added
    change loadIfNecessary env codec baseUrl
      { withCallbacks _ loaded with restoreSessionCompletionCallbacks := [] } = _
    rw [still.clear]
    unfold loadIfNecessary
    rw [Stateful.run_get, if_neg (by simp [still.attached])]
    rfl

/-! ## Loads that differ in their virtual URL -/

def displaying (env : NavigationEnvironment) (params : WebLoadParams)
    (item : NavigationItem) : NavigationItem :=
  if env.isValid params.virtualUrl then item.setVirtualURL params.virtualUrl else item

theorem describeLoad_eq (last : Option NavigationItem) (item : NavigationItem) :
    ∃ marked : NavigationItem, marked.getVirtualURL = item.getVirtualURL ∧
      ∀ params, describeLoad env params last item =
        displaying env params marked := by
  unfold describeLoad
  by_cases hash : (last.map NavigationItem.getVirtualURL).getD .empty ≠ item.url ∧
      env.equalsIgnoringRef ((last.map NavigationItem.getVirtualURL).getD .empty) item.url
  · refine ⟨{ item with isCreatedFromHashChange := true }, rfl, fun params => ?_⟩
    dsimp only
    rw [if_pos hash]
    rfl
  · refine ⟨item, rfl, fun params => ?_⟩
    dsimp only
    rw [if_neg hash]
    rfl

def withHeaders (params : WebLoadParams) (item : NavigationItem) : NavigationItem :=
  match params.extraHeaders with
  | some headers => item.addHttpRequestHeaders headers
  | none => item

/-- Post data is added to an item whose headers say what it is. -/
theorem addHeadersAndPostData_eq (params : WebLoadParams) (item : NavigationItem) :
    addHeadersAndPostData params item =
      match params.postData with
      | none => some (withHeaders params item)
      | some postData =>
        (dcheck (((withHeaders params item).httpRequestHeaders.getD []).any
          fun header => header.1 == "Content-Type")).map fun _ =>
            { withHeaders params item with
              postData := some postData, shouldSkipRepostFormConfirmation := true } := by
  unfold addHeadersAndPostData
  cases params.postData with
  | none => rfl
  | some _ => exact (Option.map_eq_bind ..).symm

variable (other : WebLoadParams) (item : NavigationItem)

theorem withHeaders_displaying :
    withHeaders params (displaying env other item) =
      displaying env other (withHeaders params item) := by
  unfold displaying withHeaders
  cases params.extraHeaders with
  | none => rfl
  | some _ =>
    dsimp only
    split
    · rfl
    · rfl

/-- Headers and post data are added whatever URL is displayed. -/
theorem addHeadersAndPostData_displaying :
    addHeadersAndPostData params (displaying env other item) =
      (addHeadersAndPostData params item).map (displaying env other) := by
  have same : (displaying env other (withHeaders params item)).httpRequestHeaders =
      (withHeaders params item).httpRequestHeaders := by
    unfold displaying
    split
    · rfl
    · rfl
  rw [addHeadersAndPostData_eq, addHeadersAndPostData_eq, withHeaders_displaying, same]
  cases params.postData with
  | none => rfl
  | some _ =>
    dsimp only
    rw [Option.map_map]
    congr 1
    funext _
    unfold displaying
    split
    · rfl
    · rfl

theorem getVirtualURL_addHeadersAndPostData {item added : NavigationItem}
    (adding : addHeadersAndPostData params item = some added) :
    added.getVirtualURL = item.getVirtualURL := by
  have headers : (withHeaders params item).getVirtualURL = item.getVirtualURL := by
    unfold withHeaders
    split
    · rfl
    · rfl
  rw [addHeadersAndPostData_eq] at adding
  cases data : params.postData with
  | none =>
    grind
  | some _ =>
    rw [data] at adding
    obtain ⟨_, -, made⟩ := Option.map_eq_some_iff.mp adding
    rw [← made]
    exact headers

def initiationTypeOf (params : WebLoadParams) : NavigationInitiationType :=
  if params.isRendererInitiated then .rendererInitiated else .browserInitiated

/-- With another virtual URL a load does the same, except for the URL that the pending item
displays. -/
theorem addItemForLoad_virtualUrl (attached : before.attachedToWebView = true)
    (added : addItemForLoad env params before = some ((), after)) (url : GURL) :
    (displayedUrl env before params.url (initiationTypeOf params) = none ∧
      addItemForLoad env { params with virtualUrl := url } before = some ((), after)) ∨
    ∃ manager item, Placed manager ∧
      displayedUrl env before params.url (initiationTypeOf params) =
        some item.getVirtualURL ∧
      after = manager.writePendingItem (displaying env params item) ∧
      addItemForLoad env { params with virtualUrl := url } before =
        some ((), manager.writePendingItem
          (displaying env { params with virtualUrl := url } item)) := by
  obtain ⟨transition, added⟩ := Stateful.dcheck_run added
  obtain ⟨_, _, adding, added⟩ := Stateful.bind_run added
  obtain ⟨pending, addsPending⟩ := addPendingItem_pending attached adding
  rw [Stateful.run_bind addsPending.reads] at added
  have displays := addsPending.displays
  cases pending with
  | none =>
    left
    refine ⟨displays.symm, ?_⟩
    unfold addItemForLoad
    rw [Stateful.run_dcheck, if_pos transition]
    refine (Stateful.run_bind adding).trans ?_
    rw [Stateful.run_bind addsPending.reads]
    exact added
  | some pendingItem =>
    right
    obtain ⟨last, _, reading, added⟩ := Stateful.bind_run added
    rw [Stateful.run_get] at added
    obtain ⟨uncovered, added⟩ := Stateful.dcheck_run added
    obtain ⟨_, manager, describing, writing⟩ := Stateful.bind_run added
    obtain ⟨described, rfl⟩ := Stateful.lift_run describing
    cases writing
    obtain ⟨_, sameUrl, describes⟩ := @describeLoad_eq env last pendingItem
    rw [describes, addHeadersAndPostData_displaying] at described
    obtain ⟨item, headers, rfl⟩ := Option.map_eq_some_iff.mp described
    have redescribed : addHeadersAndPostData { params with virtualUrl := url }
        (describeLoad env { params with virtualUrl := url } last pendingItem) =
        some (displaying env { params with virtualUrl := url } item) := by
      rw [describes, addHeadersAndPostData_displaying]
      exact congrArg (Option.map _) headers
    refine ⟨manager, item, ?_, ?_, rfl, ?_⟩
    · rcases getLastCommittedItemInCurrentOrRestoredSession_state reading with
        rfl | ⟨position, stored, rfl⟩
      · exact addsPending.placed rfl
      · exact (addsPending.placed rfl).of_withItem position stored
    · rw [getVirtualURL_addHeadersAndPostData headers, sameUrl]
      exact displays.symm
    · unfold addItemForLoad
      rw [Stateful.run_dcheck, if_pos transition]
      refine (Stateful.run_bind adding).trans ?_
      rw [Stateful.run_bind addsPending.reads]
      refine (Stateful.run_bind reading).trans ?_
      rw [Stateful.run_get, Stateful.run_dcheck, if_pos uncovered]
      exact Stateful.run_bind (Stateful.run_lift redescribed manager)

/-! ## What a load leads to -/

def described (item : NavigationItem) : NavigationItem :=
  { item with virtualUrl := item.getVirtualURL }

def describedEntry (entry : WKBackForwardListItem) : WKBackForwardListItem :=
  { entry with navigationItem := entry.navigationItem.map described }

structure SameOutcome (env : NavigationEnvironment)
    (first second : WKNavigationManager) : Prop where
  pending : (getPendingItemInCurrentOrRestoredSession env first).map
      (fun read => read.1.map described) =
    (getPendingItemInCurrentOrRestoredSession env second).map
      (fun read => read.1.map described)
  entries : first.backForwardList.items.map describedEntry =
    second.backForwardList.items.map describedEntry
  window : first.emptyWindowOpenItem.map described = second.emptyWindowOpenItem.map described
  cached : first.cachedItems.map described = second.cachedItems.map described
  currentItemIndex : first.getCurrentItemIndex = second.getCurrentItemIndex
  lastCommittedItemIndex : first.lastCommittedItemIndex = second.lastCommittedItemIndex
  previousItemIndex : first.previousItemIndex = second.previousItemIndex

theorem SameOutcome.refl (manager : WKNavigationManager) :
    SameOutcome env manager manager :=
  ⟨rfl, rfl, rfl, rfl, rfl, rfl, rfl⟩

theorem map_describedEntry_modify (entries : List WKBackForwardListItem) (position : Nat)
    {first second : NavigationItem} (same : described first = described second) :
    (entries.modify position fun entry => { entry with navigationItem := some first }).map
        describedEntry =
      (entries.modify position fun entry => { entry with navigationItem := some second }).map
        describedEntry := by
  induction entries generalizing position with
  | nil => simp
  | cons _ _ ih =>
    cases position <;> simp [describedEntry, same, ih]

/-- Two items written to the same place lead to the same if they are described alike. -/
theorem sameOutcome_write_iff (placed : manager.Placed) (first second : NavigationItem) :
    SameOutcome env (manager.writePendingItem first) (manager.writePendingItem second) ↔
      described first = described second := by
  constructor
  · intro same
    simpa [placed.read_write] using same.pending
  · intro same
    have pending : (getPendingItemInCurrentOrRestoredSession env
          (manager.writePendingItem first)).map (fun read => read.1.map described) =
        (getPendingItemInCurrentOrRestoredSession env
          (manager.writePendingItem second)).map (fun read => read.1.map described) := by
      simp [placed.read_write, same]
    unfold writePendingItem at pending ⊢
    rcases placed with new | ⟨window, first⟩ | ⟨window, attached, nonneg, -⟩
    · simp only [if_pos new] at pending ⊢
      exact ⟨pending, rfl, rfl, rfl, rfl, rfl, rfl⟩
    · have history : manager.pendingItemIndex ≠ -1 := by omega
      simp only [if_neg history, writeItemAtIndex, if_pos window] at pending ⊢
      exact ⟨pending, rfl, congrArg some same, rfl, rfl, rfl, rfl⟩
    · have history : manager.pendingItemIndex ≠ -1 := by omega
      have noWindow : ¬ manager.emptyWindowOpenItem.isSome := by simp [window]
      simp only [if_neg history, writeItemAtIndex, if_neg noWindow, if_pos attached] at pending ⊢
      refine ⟨pending, ?_, rfl, rfl, ?_, rfl, rfl⟩
      · simpa [backForwardList_setNavigationItemInWKItem, WKBackForwardList.items_setNavigationItem]
          using map_describedEntry_modify _ _ same
      · simp [getCurrentItemIndex_setNavigationItemInWKItem]

/-- A valid URL is displayed once it is set. -/
theorem getVirtualURL_setVirtualURL (nonempty : url ≠ .empty) (item : NavigationItem) :
    (item.setVirtualURL url).getVirtualURL = url := by
  have notEmpty : url.isEmpty = false := by
    cases url
    grind [GURL.isEmpty, GURL.empty]
  unfold NavigationItem.setVirtualURL NavigationItem.getVirtualURL
  by_cases same : url = item.url
  · rw [if_pos same, same]
    rfl
  · rw [if_neg same]
    simp [notEmpty]

/-- Setting the virtual URL changes what is described exactly if another URL is displayed. -/
theorem described_displaying_iff (blank : env.isValid .empty = false)
    (item : NavigationItem) :
    described item = described (displaying env params item) ↔
      (env.isValid params.virtualUrl = true → item.getVirtualURL = params.virtualUrl) := by
  unfold displaying
  split
  · rename_i valid
    have nonempty : params.virtualUrl ≠ .empty := by
      grind
    have displays := getVirtualURL_setVirtualURL nonempty item
    constructor
    · intro same _
      rw [← displays]
      exact congrArg NavigationItem.virtualUrl same
    · intro same
      unfold described
      rw [displays, same valid]
      rfl
  · grind

/-! ## Deferring a load -/

def EndsRestore (env : NavigationEnvironment) : Operation → Prop
  | .onRendererInitiatedNavigationStarted url => env.isRestoreSessionUrl url = false
  | _ => False

theorem restoringStable : Stable fun manager => manager.isRestoreSessionInProgress = true where
  same := fun restoring same => same.restoring.trans restoring
  discards := id
  covers := fun restoring _ => restoring
  commits := id
  starts := fun _ => rfl
  defers := id
  detaches := fun restoring _ _ => restoring
  attaches := id

/-- Until a restore ends it stays under way, and nothing notices the loads that wait. -/
theorem respects_perform_duringRestore {operation : Operation}
    (continues : ¬ EndsRestore env operation) (earlier : List WebLoadParams) :
    Respects (withCallbacks earlier) (fun manager => manager.isRestoreSessionInProgress = true)
      (perform env codec baseUrl operation) := by
  by_cases starts : ∃ url, operation = .onRendererInitiatedNavigationStarted url
  · obtain ⟨url, rfl⟩ := starts
    have restorePage : env.isRestoreSessionUrl url = true := by
      simpa [EndsRestore] using continues
    have nothing : ∀ manager, onRendererInitiatedNavigationStarted env codec baseUrl url
        manager = some ((), manager) := by
      intro manager
      unfold onRendererInitiatedNavigationStarted
      rw [Stateful.run_get, if_neg (by simp [restorePage])]
      rfl
    constructor
    · simp [Keeps, perform, nothing]
    · simp [Commutes, perform, nothing]
  · exact respects_perform restoringStable fun url same => starts ⟨url, same⟩

theorem respects_performAll_duringRestore
    (continues : ∀ operation ∈ operations, ¬ EndsRestore env operation)
    (earlier : List WebLoadParams) :
    Respects (withCallbacks earlier) (fun manager => manager.isRestoreSessionInProgress = true)
      (performAll env codec baseUrl operations) := by
  induction operations with
  | nil => exact .pure PUnit.unit
  | cons _ _ ih =>
    refine Respects.bind (respects_perform_duringRestore ?_ earlier) fun _ => ih ?_
    · simp [continues]
    · grind

def withoutCallbacks (manager : WKNavigationManager) : WKNavigationManager :=
  { manager with restoreSessionCompletionCallbacks := [] }

theorem withCallbacks_withoutCallbacks (manager : WKNavigationManager) :
    withCallbacks manager.restoreSessionCompletionCallbacks manager.withoutCallbacks = manager := by
  simp [withCallbacks, withoutCallbacks]

theorem addRestoreCompletionCallback_eq (params : WebLoadParams) (manager : WKNavigationManager) :
    addRestoreCompletionCallback params manager =
      withCallbacks (manager.restoreSessionCompletionCallbacks ++ [params.copy])
        manager.withoutCallbacks := by
  simp [addRestoreCompletionCallback, withCallbacks, withoutCallbacks]

/-- If no other load is deferred, the restore takes the same course behind one. -/
theorem performAll_deferred
    (continues : ∀ operation ∈ operations, ¬ EndsRestore env operation)
    (ran : performAll env codec baseUrl operations before = some ((), after))
    (last : after.restoreSessionCompletionCallbacks = before.restoreSessionCompletionCallbacks)
    (params : WebLoadParams) :
    performAll env codec baseUrl operations (addRestoreCompletionCallback params before) =
      some ((), addRestoreCompletionCallback params after) := by
  have commutes : ∀ earlier, Commutes (withCallbacks earlier)
      (performAll env codec baseUrl operations) :=
    fun earlier => (respects_performAll_duringRestore continues earlier).commutes
  rw [← withCallbacks_withoutCallbacks before, commutes] at ran
  obtain ⟨⟨_, plain⟩, plainRan, same⟩ := Option.map_eq_some_iff.mp ran
  cases same
  have none : plain.restoreSessionCompletionCallbacks = [] :=
    List.append_cancel_left (last.trans (List.append_nil _).symm)
  have deferred :
      withCallbacks (before.restoreSessionCompletionCallbacks ++ [params.copy]) plain =
        addRestoreCompletionCallback params
          (withCallbacks before.restoreSessionCompletionCallbacks plain) := by
    simp [addRestoreCompletionCallback, withCallbacks, none]
  rw [addRestoreCompletionCallback_eq, commutes, plainRan]
  simp [deferred]

theorem loadURLWithParams_restoring (restoring : before.isRestoreSessionInProgress = true)
    (page : env.isRestoreSessionUrl params.url = false) :
    loadURLWithParams env codec baseUrl params before =
      some ((), addRestoreCompletionCallback params before) := by
  unfold loadURLWithParams
  rw [Stateful.run_get, if_pos ⟨restoring, by simp [page]⟩]
  rfl

theorem performAll_append (first second : List Operation) :
    performAll env codec baseUrl (first ++ second) =
      performAll env codec baseUrl first >>= fun _ =>
        performAll env codec baseUrl second :=
  List.forM_append

theorem performAll_singleton (operation : Operation) :
    performAll env codec baseUrl [operation] =
      perform env codec baseUrl operation :=
  bind_pure_unit

/-- The load waits and is started with the copy of its parameters. -/
theorem performAll_load_first (restoring : before.isRestoreSessionInProgress = true)
    (page : env.isRestoreSessionUrl params.url = false)
    (continues : ∀ operation ∈ operations, ¬ EndsRestore env operation)
    (ends : env.isRestoreSessionUrl url = false) {middle completed : WKNavigationManager}
    (ran : performAll env codec baseUrl operations before = some ((), middle))
    (last : middle.restoreSessionCompletionCallbacks = before.restoreSessionCompletionCallbacks)
    (attached : middle.attachedToWebView = true)
    (completing : onRendererInitiatedNavigationStarted env codec baseUrl url middle =
      some ((), completed)) :
    performAll env codec baseUrl
        (.loadURLWithParams params :: operations ++ [.onRendererInitiatedNavigationStarted url])
        before =
      addItemForLoad env params.copy completed := by
  have still : middle.isRestoreSessionInProgress = true :=
    (respects_performAll_duringRestore continues []).keeps restoring ran
  rw [onRendererInitiatedNavigationStarted_eq ends still attached] at completing
  have starts : performAll env codec baseUrl [.loadURLWithParams params] before =
      some ((), addRestoreCompletionCallback params before) := by
    rw [performAll_singleton]
    exact loadURLWithParams_restoring restoring page
  rw [← List.singleton_append, List.append_assoc, performAll_append, Stateful.run_bind starts,
    performAll_append, Stateful.run_bind (performAll_deferred continues ran last params),
    performAll_singleton]
  have ending := @onRendererInitiatedNavigationStarted_eq env codec baseUrl
    (addRestoreCompletionCallback params middle) url ends still attached
  refine ending.trans ?_
  refine (congrFun List.forM_append _).trans ?_
  refine (Stateful.run_bind completing).trans ?_
  simp

/-- The load is asked for when the restore has ended. -/
theorem performAll_load_last {middle completed : WKNavigationManager} (settled : completed.Settled)
    (ran : performAll env codec baseUrl operations before = some ((), middle))
    (completing : onRendererInitiatedNavigationStarted env codec baseUrl url middle =
      some ((), completed)) :
    performAll env codec baseUrl
        (operations ++ [.onRendererInitiatedNavigationStarted url, .loadURLWithParams params])
        before =
      addItemForLoad env params completed := by
  have ended : perform env codec baseUrl (.onRendererInitiatedNavigationStarted url)
      middle = some ((), completed) := completing
  rw [performAll_append, Stateful.run_bind ran, ← List.singleton_append, performAll_append,
    performAll_singleton, performAll_singleton, Stateful.run_bind ended]
  exact loadURLWithParams_settled settled params

/-- The URL that is asked for is displayed also without being set: it is not valid and is
never set, or the pending item displays it anyway. -/
def DisplaysAnyway (env : NavigationEnvironment) (manager : WKNavigationManager)
    (params : WebLoadParams) : Prop :=
  env.isValid params.virtualUrl = true →
    ∀ url, displayedUrl env manager params.url (initiationTypeOf params) = some url →
      url = params.virtualUrl

/-- A load that is the last one to be deferred during a restore returns if and only if it
does when it is asked for right after the restore, and then it leads to the same pending
item and the same history exactly if its URL is displayed anyway. -/
theorem deferredLoad_iff_displaysAnyway (blank : env.isValid .empty = false)
    (restoring : before.isRestoreSessionInProgress = true)
    (page : env.isRestoreSessionUrl params.url = false) {operations : List Operation}
    (continues : ∀ operation ∈ operations, ¬ EndsRestore env operation) {url : GURL}
    (ends : env.isRestoreSessionUrl url = false) {middle completed : WKNavigationManager}
    (ran : performAll env codec baseUrl operations before = some ((), middle))
    (last : middle.restoreSessionCompletionCallbacks = before.restoreSessionCompletionCallbacks)
    (attached : middle.attachedToWebView = true)
    (completing : onRendererInitiatedNavigationStarted env codec baseUrl url middle =
      some ((), completed)) :
    (∀ deferred, performAll env codec baseUrl
        (.loadURLWithParams params :: operations ++ [.onRendererInitiatedNavigationStarted url])
        before = some ((), deferred) →
      ∃ loaded, performAll env codec baseUrl
        (operations ++ [.onRendererInitiatedNavigationStarted url, .loadURLWithParams params])
        before = some ((), loaded)) ∧
    ∀ loaded, performAll env codec baseUrl
        (operations ++ [.onRendererInitiatedNavigationStarted url, .loadURLWithParams params])
        before = some ((), loaded) →
      ∃ deferred, performAll env codec baseUrl
          (.loadURLWithParams params :: operations ++ [.onRendererInitiatedNavigationStarted url])
          before = some ((), deferred) ∧
        (SameOutcome env deferred loaded ↔
          DisplaysAnyway env completed params) := by
  have still : middle.isRestoreSessionInProgress = true :=
    (respects_performAll_duringRestore continues []).keeps restoring ran
  have settled : completed.Settled := by
    grind [onRendererInitiatedNavigationStarted_eq, forM_addItemForLoad_settled,
      withoutRestore_settled]
  rw [performAll_load_first restoring page continues ends ran last attached completing,
    performAll_load_last settled ran completing]
  constructor
  · intro deferred added
    rcases addItemForLoad_virtualUrl settled.attached added params.virtualUrl with
      ⟨-, same⟩ | ⟨_, _, -, -, -, same⟩
    · exact ⟨_, same⟩
    · exact ⟨_, same⟩
  · intro loaded added
    rcases addItemForLoad_virtualUrl settled.attached added .empty with
      ⟨nothing, same⟩ | ⟨manager, item, placed, displays, rfl, same⟩
    · refine ⟨loaded, same, fun _ _ url found => ?_, fun _ => .refl loaded⟩
      rw [nothing] at found
      cases found
    · have unset : displaying env { params with virtualUrl := .empty } item = item := by
        unfold displaying
        rw [if_neg (by simp [blank])]
      rw [unset] at same
      refine ⟨_, same, ?_⟩
      simp [sameOutcome_write_iff placed, described_displaying_iff blank, DisplaysAnyway, displays]

/-! ## Two loads during a restore -/

def restoreStarted : List Operation := [.restore 0 [{ url := ⟨"a"⟩, title := "A" }]]

/-- Time passes until the restore ends; a load without a virtual URL loses nothing. -/
theorem deferredLoad_iff_displaysAnyway_plain :
    ∃ middle completed loaded deferred,
      performAll restoringEnvironment silentCodec "restore" [.timePasses 5]
        (stateWithRestores restoreStarted) = some ((), middle) ∧
      onRendererInitiatedNavigationStarted restoringEnvironment silentCodec "restore" ⟨"a"⟩
        middle = some ((), completed) ∧
      performAll restoringEnvironment silentCodec "restore"
        [.timePasses 5, .onRendererInitiatedNavigationStarted ⟨"a"⟩,
          .loadURLWithParams { url := ⟨"b"⟩ }]
        (stateWithRestores restoreStarted) = some ((), loaded) ∧
      performAll restoringEnvironment silentCodec "restore"
        [.loadURLWithParams { url := ⟨"b"⟩ }, .timePasses 5,
          .onRendererInitiatedNavigationStarted ⟨"a"⟩]
        (stateWithRestores restoreStarted) = some ((), deferred) ∧
      DisplaysAnyway restoringEnvironment completed { url := ⟨"b"⟩ } ∧
      SameOutcome restoringEnvironment deferred loaded := by
  have started : (performAll restoringEnvironment silentCodec "restore"
      [.timePasses 5, .onRendererInitiatedNavigationStarted ⟨"a"⟩,
        .loadURLWithParams { url := ⟨"b"⟩ }] (stateWithRestores restoreStarted)).isSome := by
    decide +kernel
  obtain ⟨⟨_, loaded⟩, ran⟩ := Option.isSome_iff_exists.mp started
  obtain ⟨_, _, passing, rest⟩ := Stateful.bind_run ran
  obtain ⟨_, completed, completing, -⟩ := Stateful.bind_run rest
  cases passing
  have displays : DisplaysAnyway restoringEnvironment completed { url := ⟨"b"⟩ } := by
    intro valid
    cases valid
  obtain ⟨deferred, deferring, outcome⟩ :=
    (@deferredLoad_iff_displaysAnyway restoringEnvironment silentCodec "restore"
      (stateWithRestores restoreStarted) { url := ⟨"b"⟩ } rfl (by decide +kernel) (by decide)
      [.timePasses 5] (by simp [EndsRestore]) ⟨"a"⟩ (by decide) _ completed rfl rfl
      (by decide +kernel) completing).2 loaded ran
  exact ⟨_, completed, loaded, deferred, rfl, completing, ran, deferring, displays,
    outcome.mpr displays⟩

def disguisedLoad : WebLoadParams := { url := ⟨"b"⟩, virtualUrl := ⟨"shown"⟩ }

def deferredDuringRestore : List Operation :=
  restoreStarted ++
    [.loadURLWithParams disguisedLoad, .onRendererInitiatedNavigationStarted ⟨"a"⟩]

def loadedAfterRestore : List Operation :=
  restoreStarted ++
    [.onRendererInitiatedNavigationStarted ⟨"a"⟩, .loadURLWithParams disguisedLoad]

/-- Deferred, the load displays the URL that it loads. -/
theorem deferredLoad_loses_virtualUrl :
    (stateWithRestores restoreStarted).isRestoreSessionInProgress = true ∧
      performAll restoringEnvironment silentCodec "restore" deferredDuringRestore {} =
        some ((), stateWithRestores deferredDuringRestore) ∧
      performAll restoringEnvironment silentCodec "restore" loadedAfterRestore {} =
        some ((), stateWithRestores loadedAfterRestore) ∧
      ¬ SameOutcome restoringEnvironment (stateWithRestores deferredDuringRestore)
        (stateWithRestores loadedAfterRestore) := by
  refine ⟨by decide +kernel, performAll_stateWithRestores (by decide +kernel),
    performAll_stateWithRestores (by decide +kernel), fun same => ?_⟩
  have pending := same.pending
  revert pending
  decide +kernel

end ChromiumIos.WKNavigationManager
