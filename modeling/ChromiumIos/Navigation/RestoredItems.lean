import ChromiumIos.Navigation.DeferredLoads
import ChromiumIos.Navigation.RestoreStarts

/-!
# The items of a restored session

A restore is followed through to its end.  The page is loaded and commits the pending item, which
stays with the first entry; then the page replays the session, and the items are read from the
list of the web view.  The pending item is made to look like the first of all items, while the
first entry is that of the first item that is sent.
-/

namespace ChromiumIos.WKNavigationManager

open Lib

/-! ## The run of a restore -/

def sentItems (lastCommittedItemIndex : Int) (items : List NavigationItem) :
    List NavigationItem :=
  let range := getSafeItemIterators lastCommittedItemIndex.toNat items.length
  (items.take range.2).drop range.1

def pageHistory (page : GURL) : History HistoryEntry := ⟨[⟨"", page.spec⟩], 0, Nat.zero_lt_one⟩

/-- The list of a web view with this history.  The first entry keeps its item. -/
def backForwardListOf (history : History HistoryEntry) (firstItem : Option NavigationItem) :
    WKBackForwardList :=
  let items := history.entries.mapIdx fun position entry =>
    { url := ⟨entry.url⟩
      title := entry.title
      navigationItem := if position = 0 then firstItem else none : WKBackForwardListItem }
  match items[history.current]? with
  | none => .empty
  | some currentItem =>
    .focused (items.take history.current) currentItem (items.drop (history.current + 1))

def withWebView (manager : WKNavigationManager) (url : GURL) (list : WKBackForwardList) :
    WKNavigationManager :=
  { manager with webView := some { url := url, backForwardList := list } }

def currentEntryItem (manager : WKNavigationManager) : Option NavigationItem :=
  manager.backForwardList.currentItem.bind WKBackForwardListItem.navigationItem

structure ShowsItems (env : NavigationEnvironment) (items : List NavigationItem)
    (manager : WKNavigationManager) : Prop where
  count : manager.getItemCount = items.length
  reads : ∀ (position : Nat) (item : NavigationItem), items[position]? = some item →
    ∃ seen after, getItemAtIndex env position manager = some (some seen, after) ∧
      seen.getVirtualURL = item.getVirtualURL ∧ seen.title = item.title

/-- The pending item is primed with what the first item that is sent displays, and once the page
has committed it and has replayed the session the items that were sent are read. -/
def RestoresItems (env : NavigationEnvironment) (codec : SessionCodec) (baseUrl : String)
    (lastCommittedItemIndex : Int) (items : List NavigationItem)
    (manager : WKNavigationManager) : Prop :=
  let rewritten := items.map (rewriteItemURLIfNecessary env)
  ∃ restored pendingItem firstItem url history committed,
    restore env codec baseUrl lastCommittedItemIndex items manager =
        some ((), restored) ∧
      getPendingItemInCurrentOrRestoredSession env restored =
        some (some pendingItem, restored) ∧
      (sentItems lastCommittedItemIndex rewritten).head? = some firstItem ∧
      pendingItem.getVirtualURL = firstItem.getVirtualURL ∧
      pendingItem.title = firstItem.title ∧
      createRestoreSessionUrl env codec baseUrl lastCommittedItemIndex rewritten =
        some url ∧
      onLoad codec baseUrl url.hash (pageHistory ⟨url.baseUrl ++ url.hash⟩) = .restored history ∧
      commitPendingItem env (restored.withWebView ⟨url.baseUrl ++ url.hash⟩
        (backForwardListOf (pageHistory ⟨url.baseUrl ++ url.hash⟩) none)) =
        some ((), committed) ∧
      ShowsItems env (sentItems lastCommittedItemIndex rewritten)
        (committed.withWebView ⟨url.baseUrl ++ url.hash⟩
          (backForwardListOf history committed.currentEntryItem))

/-! ## What the items look like -/

def sentUrl (env : NavigationEnvironment) (item : NavigationItem) : String :=
  orElse (some (restoredUrl env item)) "about:blank"

def redirectedURL (env : NavigationEnvironment) (redirect target : GURL) : GURL :=
  let url :=
    if env.isPlaceholderUrl target then env.extractUrlFromPlaceholderUrl target
    else target
  if url.isEmpty then redirect else url

structure LooksAsSent (env : NavigationEnvironment) (codec : SessionCodec)
    (baseUrl : String) (item : NavigationItem) : Prop where
  url : item.getVirtualURL = redirectedURL env
    ⟨getRestoreURL codec baseUrl (sentUrl env item)⟩ ⟨sentUrl env item⟩
  title : item.title ≠ ""

/-- The URL of a redirect is recognized and not rewritten, and its target is found in it. -/
structure Redirects (env : NavigationEnvironment) (codec : SessionCodec)
    (baseUrl target : String) : Prop where
  recognized : env.isRestoreSessionUrl ⟨getRestoreURL codec baseUrl target⟩ = true
  kept : env.rewriteURLIfNecessary ⟨getRestoreURL codec baseUrl target⟩ = none
  extracted : env.extractTargetURL ⟨getRestoreURL codec baseUrl target⟩ = some ⟨target⟩

/-- What the item of the page displays that is made to look like another one: the page itself
where the other one has no valid URL. -/
def primedURL (env : NavigationEnvironment) (rewriters : List URLRewriter) (page : GURL)
    (firstItem : NavigationItem) : GURL :=
  if env.isValid firstItem.getVirtualURL then firstItem.getVirtualURL
  else loadedUrl env env.isPlaceholderUrl page .browserInitiated .empty rewriters

/-- The first of all items makes the page look like the first item that is sent. -/
def PrimedWithFirstSent (env : NavigationEnvironment) (codec : SessionCodec)
    (baseUrl : String) (rewriters : List URLRewriter) (lastCommittedItemIndex : Int)
    (items : List NavigationItem) : Prop :=
  ∃ url firstItem firstSent,
    createRestoreSessionUrl env codec baseUrl lastCommittedItemIndex items = some url ∧
      items.head? = some firstItem ∧
      (sentItems lastCommittedItemIndex items).head? = some firstSent ∧
      primedURL env rewriters ⟨url.baseUrl ++ url.hash⟩ firstItem =
        firstSent.getVirtualURL ∧
      firstItem.title = firstSent.title

variable {env : NavigationEnvironment} {codec : SessionCodec} {baseUrl : String}
variable {manager after : WKNavigationManager}

/-! ## The list of the web view -/

theorem items_backForwardListOf (history : History HistoryEntry)
    (firstItem : Option NavigationItem) :
    (backForwardListOf history firstItem).items = history.entries.mapIdx fun position entry =>
      { url := ⟨entry.url⟩
        title := entry.title
        navigationItem := if position = 0 then firstItem else none } := by
  unfold backForwardListOf
  dsimp only
  have bound := history.valid
  rw [List.getElem?_eq_getElem (by simpa using bound)]
  change List.take _ _ ++ [_] ++ List.drop _ _ = _
  rw [List.take_append_getElem, List.take_append_drop]

variable {session : SessionDictionary} {index : Nat} {items : List NavigationItem}
variable {item firstItem : NavigationItem} {url : RestoreSessionUrl}

/-- The page writes one entry for every item that is sent, and no other ones. -/
theorem entries_replay (codec : SessionCodec) (baseUrl : String)
    (nonempty : 0 < session.urls.length) (page : GURL) (position : Nat) :
    (replay codec baseUrl session (pageHistory page)).entries[position]? =
      if position < session.urls.length then some (entryAt codec baseUrl session position)
      else none := by
  obtain ⟨current, written, length⟩ := replay_spec codec baseUrl nonempty (pageHistory page)
  have zero : (pageHistory page).current = 0 := rfl
  split
  · next bound =>
      grind
  · next beyond =>
      refine List.getElem?_eq_none ?_
      rcases Nat.lt_or_ge 1 session.urls.length with several | single
      · rw [length several]
        omega
      · have one : session.urls.length - 1 = 0 := by omega
        unfold replay
        rw [one]
        change 1 ≤ position
        omega

/-- The entries after the replay are those for the items that were sent. -/
theorem entries_restored (inside : index < items.length)
    (sent : restoredSession env index items = some session) (page : GURL) (position : Nat) :
    ((replay codec baseUrl session (pageHistory page)).go session.offset).entries[position]? =
      ((sentItems index items)[position]?).map (entryFor env codec baseUrl) := by
  obtain ⟨first, last, _⟩ := getSafeItemIterators_spec inside
  obtain ⟨within, rfl⟩ := (restoredSession_eq_some_iff ..).mp sent
  have urls : ((items.take (getSafeItemIterators index items.length).2).drop
      (getSafeItemIterators index items.length).1) = sentItems index items := rfl
  rw [urls] at sent ⊢
  have length : (sentItems index items).length =
      (getSafeItemIterators index items.length).2 -
        (getSafeItemIterators index items.length).1 := by
    grind
  rw [History.go_entries, entries_replay codec baseUrl (by rw [List.length_map]; omega),
    List.length_map]
  split
  · next bound =>
      simp [entryAt, entryFor, bound]
  · next beyond => grind

def replayedEntry (env : NavigationEnvironment) (codec : SessionCodec) (baseUrl : String)
    (firstItem : Option NavigationItem) (position : Nat) (item : NavigationItem) :
    WKBackForwardListItem where
  url := ⟨getRestoreURL codec baseUrl (sentUrl env item)⟩
  title := orElse (some item.title) "Untitled"
  navigationItem := if position = 0 then firstItem else none

theorem items_restored (inside : index < items.length)
    (sent : restoredSession env index items = some session) (page : GURL)
    (firstItem : Option NavigationItem) :
    (backForwardListOf ((replay codec baseUrl session (pageHistory page)).go session.offset)
        firstItem).items =
      (sentItems index items).mapIdx (replayedEntry env codec baseUrl firstItem) := by
  apply List.ext_getElem?
  intro position
  rw [items_backForwardListOf, List.getElem?_mapIdx, List.getElem?_mapIdx,
    entries_restored inside sent]
  cases (sentItems index items)[position]? with
  | none | some item => rfl

/-! ## Committing the item of the page -/

def pageList (page : GURL) : WKBackForwardList := .focused [] ⟨page, "", none⟩ []

def pageItem (manager : WKNavigationManager) (pendingItem : NavigationItem) : NavigationItem :=
  { pendingItem.resetForCommit with timestamp := manager.smoothedTime }

def pageStored (manager : WKNavigationManager) (page : GURL) (pendingItem : NavigationItem) :
    WKNavigationManager :=
  { manager.advanceTimeSmoother.withWebView page (.focused []
      ⟨page, "", some (manager.pageItem pendingItem)⟩ []) with
    emptyWindowOpenItem := none }

theorem getCurrentItemIndex_alone (attached : manager.attachedToWebView = true)
    {entry : WKBackForwardListItem} (alone : manager.backForwardList = .focused [] entry []) :
    manager.getCurrentItemIndex = 0 := by
  unfold getCurrentItemIndex
  rw [if_pos attached, alone]
  rfl

theorem commitItem_page (attached : manager.attachedToWebView = true)
    (new : manager.pendingItemIndex = -1) {pendingItem : NavigationItem}
    (pending : manager.pendingItem = some pendingItem) (page : GURL) :
    commitItem (manager.withWebView page (pageList page))
        (manager.withWebView page (pageList page)) =
      some ((), manager.pageStored page pendingItem) := by
  have shown : (manager.withWebView page (pageList page)).attachedToWebView = true := attached
  have index := getCurrentItemIndex_alone shown rfl
  change (if manager.pendingItemIndex = -1 then
    (liftM manager.pendingItem : Run NavigationItem) >>= commitNewItem
    else pure () : Run Unit) _ = _
  rw [if_pos new, Stateful.run_bind (Stateful.run_lift pending _)]
  unfold commitNewItem
  rw [Stateful.run_get]
  change ((liftM (dcheck true) : Run Unit) >>= _) _ = _
  change some ((), ({ (manager.withWebView page
    (pageList page)).advanceTimeSmoother.setNavigationItemInWKItem (manager.withWebView page
      (pageList page)).getCurrentItemIndex.toNat (manager.pageItem pendingItem) with
    emptyWindowOpenItem := none } : WKNavigationManager)) = _
  rw [index]
  rfl

structure CommittedPage (page : GURL) (item : NavigationItem) (manager : WKNavigationManager) :
    Prop where
  attached : manager.attachedToWebView = true
  noWindow : manager.emptyWindowOpenItem = none
  new : manager.pendingItemIndex = -1
  list : manager.backForwardList = .focused [] ⟨page, "", some item⟩ []

theorem onNavigationItemCommitted_page {page : GURL} (stored : CommittedPage page item manager) :
    ∃ committed, onNavigationItemCommitted env manager = some ((), committed) ∧
      CommittedPage page item committed := by
  have index : manager.getLastCommittedItemIndexInCurrentOrRestoredSession = 0 := by
    simp [getLastCommittedItemIndexInCurrentOrRestoredSession, stored.noWindow, stored.new,
      getCurrentItemIndex_alone stored.attached stored.list]
  have found : manager.backForwardList.items[0]? = some ⟨page, "", some item⟩ := by
    rw [stored.list]
    rfl
  have read : getLastCommittedItemInCurrentOrRestoredSession env manager =
      some (some item, manager) := by
    unfold getLastCommittedItemInCurrentOrRestoredSession
    rw [Stateful.run_get, stored.noWindow]
    dsimp only
    rw [index, if_neg (by decide), getItemAtIndex_eq, stored.noWindow]
    exact read_stored stored.attached found rfl
  unfold onNavigationItemCommitted
  rw [Stateful.run_bind read, Stateful.run_bind (Stateful.run_lift rfl _)]
  split
  · exact ⟨_, rfl, ⟨stored.attached, stored.noWindow, stored.new, stored.list⟩⟩
  · exact ⟨_, rfl, stored⟩

/-- The page commits the pending item, which stays with its entry. -/
theorem commitPendingItem_page (attached : manager.attachedToWebView = true)
    (new : manager.pendingItemIndex = -1) {pendingItem : NavigationItem}
    (pending : manager.pendingItem = some pendingItem) (page : GURL) :
    ∃ committed, commitPendingItem env (manager.withWebView page (pageList page)) =
        some ((), committed) ∧
      CommittedPage page (manager.pageItem pendingItem) committed := by
  have shown : (manager.withWebView page (pageList page)).attachedToWebView = true := attached
  have something : ¬ ((manager.withWebView page (pageList page)).pendingItemIndex = -1 ∧
      (manager.withWebView page (pageList page)).pendingItem = none) := by
    rintro ⟨-, nothing⟩
    cases pending.symm.trans nothing
  unfold commitPendingItem
  rw [Stateful.run_get, Stateful.run_dcheck, if_pos shown, if_neg something,
    Stateful.run_bind (commitItem_page attached new pending page), Stateful.run_modify]
  exact onNavigationItemCommitted_page ⟨attached, rfl, rfl, rfl⟩

/-! ## Reading the items -/

theorem createNavigationItemWithRewriters_kept {url previousUrl : GURL} {referrer : Referrer}
    {transition : PageTransition} {initiationType : NavigationInitiationType}
    (kept : env.rewriteURLIfNecessary url = none)
    (created : createNavigationItemWithRewriters env env.isPlaceholderUrl url
      referrer transition initiationType previousUrl [] = some item) :
    item.url = url ∧ item.virtualUrl = .empty := by
  obtain ⟨loaded, plain, _⟩ := createNavigationItemWithRewriters_spec created
  refine ⟨loaded.trans ?_, plain⟩
  have unwritten : rewriteURLWithWriters [] url = none := rfl
  simp [loadedUrl, unwritten, kept]

theorem getVirtualURL_setVirtualURL_any (url : GURL) (item : NavigationItem) :
    (item.setVirtualURL url).getVirtualURL = if url.isEmpty then item.url else url := by
  unfold NavigationItem.setVirtualURL NavigationItem.getVirtualURL
  by_cases same : url = item.url
  · rw [if_pos same, same]
    exact (ite_self _).symm
  · rw [if_neg same]

/-- An item that is made for a redirect displays the target. -/
theorem rebuiltItem_redirect {target : String}
    (redirects : Redirects env codec baseUrl target) {wkItem : WKBackForwardListItem}
    (url : wkItem.url = ⟨getRestoreURL codec baseUrl target⟩)
    {previous : Option WKBackForwardListItem} {timestamp : Int}
    (rebuilt : rebuiltItem env wkItem previous timestamp = some item) :
    item.getVirtualURL =
        redirectedURL env ⟨getRestoreURL codec baseUrl target⟩ ⟨target⟩ ∧
      item.title = wkItem.title := by
  obtain ⟨created, creating, made⟩ := Option.bind_eq_some_iff.mp rebuilt
  rw [url] at creating
  obtain ⟨loaded, plain⟩ := createNavigationItemWithRewriters_kept redirects.kept creating
  cases made
  unfold withTargetURL
  dsimp only
  rw [loaded, if_pos redirects.recognized, redirects.extracted]
  dsimp only
  grind [NavigationItem.setVirtualURL, redirectedURL, getVirtualURL_setVirtualURL_any]

theorem read_rebuilt (attached : manager.attachedToWebView) {entry : WKBackForwardListItem}
    (found : manager.backForwardList.items[index]? = some entry)
    (missing : entry.navigationItem = none) :
    ∃ item previous, cacheNavigationItemImplAtIndex env index manager =
        some (some item, manager.withItem index item) ∧
      rebuiltItem env entry previous manager.smoothedTime = some item := by
  obtain ⟨item, read⟩ := @read_missing env manager index _ attached found missing
  have reads := read
  rw [read_attached attached, found] at read
  dsimp only at read
  rw [missing] at read
  obtain ⟨made, _, making, same⟩ := Stateful.bind_run read
  cases same
  rw [createItemAtIndex, Stateful.run_get] at making
  obtain ⟨rebuilt, _, building, making⟩ := Stateful.bind_run making
  obtain ⟨built, rfl⟩ := Stateful.lift_run building
  cases making
  grind

/-- The replayed list, read through the manager. -/
theorem getItemAtIndex_replayed (attached : manager.attachedToWebView = true)
    (noWindow : manager.emptyWindowOpenItem = none) {sent : List NavigationItem}
    (items : manager.backForwardList.items =
      sent.mapIdx (replayedEntry env codec baseUrl (some firstItem)))
    (redirects : ∀ item ∈ sent, Redirects env codec baseUrl (sentUrl env item))
    {position : Nat} (found : sent[position]? = some item) :
    ∃ seen after, getItemAtIndex env position manager = some (some seen, after) ∧
      (position = 0 → seen = firstItem) ∧
      (position ≠ 0 → seen.getVirtualURL = redirectedURL env
          ⟨getRestoreURL codec baseUrl (sentUrl env item)⟩ ⟨sentUrl env item⟩ ∧
        seen.title = orElse (some item.title) "Untitled") := by
  have entry : manager.backForwardList.items[position]? =
      some (replayedEntry env codec baseUrl (some firstItem) position item) := by
    simp [items, found]
  have nonneg : ¬ (position : Int) < 0 := by omega
  rw [getItemAtIndex_eq, noWindow]
  dsimp only
  by_cases first : position = 0
  · exact ⟨firstItem, manager, read_stored attached entry (if_pos first), fun _ => rfl,
      fun other => absurd first other⟩
  · obtain ⟨seen, _, read, rebuilt⟩ :=
      @read_rebuilt env manager _ attached _ entry (if_neg first)
    have redirect := redirects item (List.mem_of_getElem? found)
    exact ⟨seen, _, read, fun same => absurd same first,
      fun _ => rebuiltItem_redirect redirect rfl rebuilt⟩

/-- A text that is sent as it is. -/
theorem orElse_untitled_iff (title : String) :
    orElse (some title) "Untitled" = title ↔ title ≠ "" := by
  unfold orElse
  grind

theorem showsItems_replayed_iff (attached : manager.attachedToWebView = true)
    (noWindow : manager.emptyWindowOpenItem = none) {sent : List NavigationItem}
    (items : manager.backForwardList.items =
      sent.mapIdx (replayedEntry env codec baseUrl (some firstItem)))
    (redirects : ∀ item ∈ sent, Redirects env codec baseUrl (sentUrl env item)) :
    ShowsItems env sent manager ↔
      (∀ item, sent.head? = some item → firstItem.getVirtualURL = item.getVirtualURL ∧
        firstItem.title = item.title) ∧
      ∀ item ∈ sent.tail, LooksAsSent env codec baseUrl item := by
  constructor
  · intro shows
    refine ⟨fun item found => ?_, fun item member => ?_⟩
    · grind [List.head?_eq_getElem?, getItemAtIndex_replayed, shows.reads]
    · obtain ⟨position, found⟩ := List.mem_iff_getElem?.mp member
      rw [List.getElem?_tail] at found
      obtain ⟨seen, _, read, _, later⟩ :=
        getItemAtIndex_replayed attached noWindow items redirects found
      obtain ⟨shown, _, reading, url, title⟩ := shows.reads _ item found
      cases read.symm.trans reading
      obtain ⟨redirected, titled⟩ := later (Nat.succ_ne_zero position)
      exact ⟨url.symm.trans redirected, (orElse_untitled_iff _).mp (titled.symm.trans title)⟩
  · rintro ⟨primed, looks⟩
    have length : manager.backForwardList.items.length = sent.length := by
      rw [items, List.length_mapIdx]
    refine ⟨?_, fun position item found => ?_⟩
    · simp [getItemCount, getBackForwardListItemCount, noWindow, if_pos attached, length]
    · obtain ⟨seen, after, read, first, later⟩ :=
        getItemAtIndex_replayed attached noWindow items redirects found
      refine ⟨seen, after, read, ?_⟩
      cases position with
      | zero =>
        grind [List.head?_eq_getElem?]
      | succ position =>
        have member : item ∈ sent.tail :=
          List.mem_iff_getElem?.mpr ⟨position, by rw [List.getElem?_tail, found]⟩
        obtain ⟨redirected, titled⟩ := later (Nat.succ_ne_zero position)
        exact ⟨redirected.trans (looks item member).url.symm,
          titled.trans ((orElse_untitled_iff _).mpr (looks item member).title)⟩

/-! ## The pending item -/

theorem getVirtualURL_primedItem (blank : env.isValid .empty = false)
    {rewriters : List URLRewriter}
    (loaded : item.url = loadedUrl env env.isPlaceholderUrl
      ⟨url.baseUrl ++ url.hash⟩ .browserInitiated .empty rewriters)
    (plain : item.virtualUrl = .empty) :
    (primedItem env url firstItem item).getVirtualURL =
      primedURL env rewriters ⟨url.baseUrl ++ url.hash⟩ firstItem := by
  obtain ⟨marked, same, described⟩ := @describeLoad_eq env none item
  unfold primedItem
  rw [described]
  unfold displaying primedURL
  change (if env.isValid firstItem.getVirtualURL = true then
    marked.setVirtualURL firstItem.getVirtualURL else marked).getVirtualURL = _
  split
  · next valid =>
      grind [getVirtualURL_setVirtualURL]
  · next invalid =>
      rw [same, ← loaded]
      unfold NavigationItem.getVirtualURL
      rw [plain]
      rfl

/-! ## The whole run -/

/-- A restore whose page is made is followed to its end. -/
theorem restoresItems_of_made (blank : env.isValid .empty = false)
    (knows : KnowsRestorePage env baseUrl) (ready : ReadyToRestore manager)
    (inside : index < items.length)
    (made : createRestoreSessionUrl env codec baseUrl index
      (items.map (rewriteItemURLIfNecessary env)) = some url)
    (delivers : ∀ session, restoredSession env index
      (items.map (rewriteItemURLIfNecessary env)) = some session → codec.Delivers session)
    (redirects : ∀ item ∈ items.map (rewriteItemURLIfNecessary env),
      Redirects env codec baseUrl (sentUrl env item))
    (first : (items.map (rewriteItemURLIfNecessary env))[0]? = some firstItem) :
    RestoresItems env codec baseUrl index items manager ↔
      (∃ firstSent,
        (sentItems index (items.map (rewriteItemURLIfNecessary env))).head? =
            some firstSent ∧
          primedURL env manager.transientUrlRewriters ⟨url.baseUrl ++ url.hash⟩ firstItem =
            firstSent.getVirtualURL ∧
          firstItem.title = firstSent.title) ∧
        ∀ item ∈ (sentItems index (items.map (rewriteItemURLIfNecessary env))).tail,
          LooksAsSent env codec baseUrl item := by
  have bound : index < (items.map (rewriteItemURLIfNecessary env)).length := by
    rwa [List.length_map]
  obtain ⟨session, sent, page⟩ := (createRestoreSessionUrl_eq_some_iff bound).mp made
  have urls := length_urls_restoredSession sent
  obtain ⟨lower, upper, _⟩ := getSafeItemIterators_spec bound
  have loads := onLoad_restores baseUrl (delivers session sent) (by omega)
    (pageHistory ⟨url.baseUrl ++ url.hash⟩)
  rw [← page] at loads
  obtain ⟨item, restores, loaded, plain⟩ := unsafeRestore_blank ready.blank knows
    (Int.natCast_nonneg index) made first
  rw [← restore_ready ready (by omega)] at restores
  rw [cleared_transientUrlRewriters] at loaded
  have displays := @getVirtualURL_primedItem _ _ firstItem _ blank _ loaded plain
  obtain ⟨committed, committing, stored⟩ := @commitPendingItem_page env
    (manager.cleared.restoring
      (at? (items.map (rewriteItemURLIfNecessary env)) index)
      (primedItem env url firstItem item))
    ready.blank.attached rfl _ rfl ⟨url.baseUrl ++ url.hash⟩
  have current : committed.currentEntryItem = some (pageItem (manager.cleared.restoring
      (at? (items.map (rewriteItemURLIfNecessary env)) index)
      (primedItem env url firstItem item))
      (primedItem env url firstItem item)) := by
    unfold currentEntryItem
    rw [stored.list]
    rfl
  have shows := @showsItems_replayed_iff env codec baseUrl
    (committed.withWebView ⟨url.baseUrl ++ url.hash⟩ (backForwardListOf
      ((replay codec baseUrl session (pageHistory ⟨url.baseUrl ++ url.hash⟩)).go session.offset)
      committed.currentEntryItem))
    _ stored.attached stored.noWindow
    (sentItems index (items.map (rewriteItemURLIfNecessary env)))
    (by rw [current]; exact items_restored bound sent _ _)
    (by grind [sentItems])
  change _ ↔ (∀ item, _ → (primedItem env url firstItem _).getVirtualURL = _ ∧ _) ∧ _
    at shows
  rw [displays] at shows
  unfold RestoresItems
  dsimp only
  constructor
  · rintro ⟨_, pendingItem, firstSent, _, history, _, ran, pending, head, sameUrl, sameTitle,
      madeUrl, loading, committedPage, showing⟩
    cases restores.symm.trans ran
    cases pending
    cases made.symm.trans madeUrl
    cases loads.symm.trans loading
    cases committing.symm.trans committedPage
    exact ⟨⟨firstSent, head, displays.symm.trans sameUrl, sameTitle⟩, (shows.mp showing).2⟩
  · rintro ⟨⟨firstSent, head, sameUrl, sameTitle⟩, looks⟩
    refine ⟨_, _, firstSent, url, _, committed, restores, rfl, head, displays.trans sameUrl,
      sameTitle, made, loads, ?_, shows.mpr ⟨fun other found => ?_, looks⟩⟩
    · exact committing
    · cases head.symm.trans found
      exact ⟨sameUrl, sameTitle⟩

/-- A restore of any items with any valid index primes the pending item with the first item that
is sent, and all items that were sent are read in the end, if and only if the manager is ready,
the session that is sent ends inside the items, the first of all items looks like the first one
that is sent, and the others look like what is sent for them. -/
theorem restoresItems_iff (blank : env.isValid .empty = false)
    (knows : KnowsRestorePage env baseUrl) {lastCommittedItemIndex : Int}
    {items : List NavigationItem}
    (inside : 0 ≤ lastCommittedItemIndex ∧ lastCommittedItemIndex < items.length)
    (delivers : ∀ session, restoredSession env lastCommittedItemIndex
      (items.map (rewriteItemURLIfNecessary env)) = some session → codec.Delivers session)
    (redirects : ∀ item ∈ items.map (rewriteItemURLIfNecessary env),
      Redirects env codec baseUrl (sentUrl env item)) :
    RestoresItems env codec baseUrl lastCommittedItemIndex items manager ↔
      ReadyToRestore manager ∧ FitsWindow lastCommittedItemIndex items.length ∧
        PrimedWithFirstSent env codec baseUrl manager.transientUrlRewriters
          lastCommittedItemIndex (items.map (rewriteItemURLIfNecessary env)) ∧
        ∀ item ∈ (sentItems lastCommittedItemIndex
            (items.map (rewriteItemURLIfNecessary env))).tail,
          LooksAsSent env codec baseUrl item := by
  obtain ⟨index, rfl⟩ := Int.eq_ofNat_of_zero_le inside.1
  have mapped : 0 ≤ (index : Int) ∧
      (index : Int) < (items.map (rewriteItemURLIfNecessary env)).length := by
    rwa [List.length_map]
  have fits := @isSome_createRestoreSessionUrl env codec baseUrl _ _ mapped
  have nonempty : 0 < (items.map (rewriteItemURLIfNecessary env)).length := by omega
  constructor
  · intro restores
    obtain ⟨_, _, _, url, _, _, ran, _, _, _, _, made, _⟩ := id restores
    obtain ⟨ready, -, -⟩ := restore_run (ne_nil_of_inside inside) ran
    grind [PrimedWithFirstSent, restoresItems_of_made, List.head?_eq_getElem?]
  · grind [PrimedWithFirstSent, List.head?_eq_getElem?, restoresItems_of_made]

/-- Where no items are left out before the first one that is sent, the page looks like it if its
URL is valid. -/
theorem primedWithFirstSent_of_whole {rewriters : List URLRewriter} {lastCommittedItemIndex : Int}
    (made : createRestoreSessionUrl env codec baseUrl lastCommittedItemIndex items =
      some url) (first : items.head? = some firstItem)
    (valid : env.isValid firstItem.getVirtualURL = true)
    (whole : (getSafeItemIterators lastCommittedItemIndex.toNat items.length).1 = 0)
    (some_sent : (getSafeItemIterators lastCommittedItemIndex.toNat items.length).2 ≠ 0) :
    PrimedWithFirstSent env codec baseUrl rewriters lastCommittedItemIndex items := by
  refine ⟨url, firstItem, firstItem, made, first, ?_, if_pos valid, rfl⟩
  unfold sentItems
  simp [whole, if_neg some_sent, first, List.head?_take]

/-- An item looks as it is sent if it displays its own URL and has a title. -/
theorem looksAsSent_of_plain (plain : item.virtualUrl = .empty) (loaded : item.url.isEmpty = false)
    (web : env.isAppSpecificURL item.url = false)
    (notPlaceholder : env.isPlaceholderUrl item.url = false) (title : item.title ≠ "") :
    LooksAsSent env codec baseUrl item := by
  have sent : sentUrl env item = item.url.spec := by
    unfold sentUrl restoredUrl orElse
    rw [web]
    exact if_neg (by simpa [GURL.isEmpty] using loaded)
  refine ⟨?_, title⟩
  unfold redirectedURL NavigationItem.getVirtualURL
  rw [plain, sent, notPlaceholder]
  dsimp only
  rw [if_neg Bool.false_ne_true, loaded]
  rfl

/-! ## A short session and a long one -/

def redirectingEnvironment : NavigationEnvironment :=
  { restoringEnvironment with
    extractTargetURL := fun url =>
      some ⟨String.ofList (url.spec.toList.drop "restore_session.html#targetUrl=".length)⟩ }

def redirectingCodec (session : SessionDictionary) : SessionCodec :=
  { codecFor session with encodeURIComponent := fun targetUrl => targetUrl }

theorem redirects_plain (session : SessionDictionary) (target : String) :
    Redirects redirectingEnvironment (redirectingCodec session) "restore_session.html" target := by
  have spec : getRestoreURL (redirectingCodec session) "restore_session.html" target =
      "restore_session.html#targetUrl=" ++ target := rfl
  refine ⟨?_, rfl, ?_⟩
  · change List.isPrefixOf _ (_ ++ _ : String).toList = true
    simp
  · rw [spec]
    simp [redirectingEnvironment, ← String.length_toList]

theorem knowsRestorePage_session :
    KnowsRestorePage redirectingEnvironment "restore_session.html" := by
  rintro ⟨_, ref⟩ rfl
  change List.isPrefixOf _ ("restore_session.html" ++ _ : String).toList = true
  simp

theorem newManager_ready : ReadyToRestore {} := ⟨rfl, rfl, rfl⟩

/-- No item is rewritten. -/
theorem map_rewriteItemURLIfNecessary (items : List NavigationItem) :
    items.map (rewriteItemURLIfNecessary redirectingEnvironment) = items :=
  List.map_id' items

/-- How the page writes its redirects does not matter to what is delivered to it. -/
theorem delivers_withEncode (delivers : codec.Delivers session)
    (encodeURIComponent : String → String) :
    { codec with encodeURIComponent := encodeURIComponent }.Delivers session :=
  ⟨delivers.unescapes, delivers.nonempty, delivers.parses⟩

theorem redirectingCodec_delivers {other : SessionDictionary}
    (sent : restoredSession redirectingEnvironment index items = some session)
    (sentOther : restoredSession redirectingEnvironment index
      (items.map (rewriteItemURLIfNecessary redirectingEnvironment)) = some other) :
    (redirectingCodec session).Delivers other := by
  rw [map_rewriteItemURLIfNecessary] at sentOther
  cases Option.some.inj (sent.symm.trans sentOther)
  exact delivers_withEncode (codecFor_delivers session) _

/-- Three items are restored as they were. -/
theorem restoresItems_three :
    ∃ session, restoredSession redirectingEnvironment 1 (numberedItems 3) = some session ∧
      RestoresItems redirectingEnvironment (redirectingCodec session) "restore_session.html" 1
        (numberedItems 3) {} := by
  obtain ⟨session, sent⟩ : ∃ session,
      restoredSession redirectingEnvironment (1 : Nat) (numberedItems 3) = some session :=
    ⟨_, (restoredSession_eq_some_iff ..).mpr ⟨by decide, rfl⟩⟩
  have made := (@createRestoreSessionUrl_eq_some_iff redirectingEnvironment
    (redirectingCodec session) "restore_session.html" (numberedItems 3) 1 _ (by decide)).mpr
    ⟨session, sent, rfl⟩
  refine ⟨session, sent, (restoresItems_iff (by decide) knowsRestorePage_session (by decide)
    (fun _ => redirectingCodec_delivers sent) (fun item _ => redirects_plain _ _)).mpr
    ⟨newManager_ready, by unfold FitsWindow; decide, ?_, ?_⟩⟩
  · exact primedWithFirstSent_of_whole made rfl (by decide) (by decide) (by decide)
  · have named : ∀ item ∈ (sentItems 1 (numberedItems 3)).tail, item.virtualUrl = .empty ∧
        item.url.isEmpty = false ∧ item.title ≠ "" := by decide
    intro item member
    obtain ⟨plain, loaded, title⟩ := named item member
    exact looksAsSent_of_plain plain loaded rfl rfl title

/-- Of 100 items with the one at 50 committed, the one at 13 is sent first, but the page is made to
look like the one at 0. -/
theorem not_restoresItems_long :
    ∃ session, restoredSession redirectingEnvironment 50 (numberedItems 100) = some session ∧
      (redirectingCodec session).Delivers session ∧
      ¬ RestoresItems redirectingEnvironment (redirectingCodec session) "restore_session.html" 50
        (numberedItems 100) {} := by
  obtain ⟨session, sent⟩ : ∃ session,
      restoredSession redirectingEnvironment (50 : Nat) (numberedItems 100) = some session :=
    ⟨_, (restoredSession_eq_some_iff ..).mpr ⟨by decide, rfl⟩⟩
  have made := (@createRestoreSessionUrl_eq_some_iff redirectingEnvironment
    (redirectingCodec session) "restore_session.html" (numberedItems 100) 50 _ (by decide)).mpr
    ⟨session, sent, rfl⟩
  have rewritten := map_rewriteItemURLIfNecessary (numberedItems 100)
  have delivers := @redirectingCodec_delivers _ _ _ session sent (by rw [rewritten]; exact sent)
  refine ⟨session, sent, delivers, fun restores => ?_⟩
  obtain ⟨⟨_, head, -, sameTitle⟩, -⟩ := (restoresItems_of_made (by decide)
    knowsRestorePage_session newManager_ready (by decide) (by rw [rewritten]; exact made)
    (fun _ => redirectingCodec_delivers sent) (fun item _ => redirects_plain _ _)
    (by rw [rewritten]; rfl)).mp restores
  revert sameTitle
  cases (show (sentItems 50 (numberedItems 100)).head? = some _ from rfl).symm.trans head
  decide

end ChromiumIos.WKNavigationManager
