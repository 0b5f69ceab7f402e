import ChromiumIos.Navigation.SessionControllerIndices
import ChromiumIos.Navigation.SessionStorageBuilder

/-!
# Sessions are restored as they were saved

A session that is saved and restored has the same committed items, as far as they
are stored, and the same indices.  This holds for every history that a controller
can have, by itself, by changes that others make to its items or by having been
restored before, unless its last committed item is the page that restores
sessions.  An archive of the session in between changes nothing if the URLs in it
are valid.
-/

namespace ChromiumIos

open Lib

/-! ## Indices -/

theorem narrowToInt_eq {value : Int} (lower : -2 ^ 31 ≤ value) (upper : value < 2 ^ 31) :
    narrowToInt value = value :=
  Int.bmod_eq_of_le (by omega) (by omega)

/-- An `int` is the same as a word of 64 bits. -/
theorem toInt_ofInt_narrowToInt (value : Int) :
    (BitVec.ofInt 64 (narrowToInt value)).toInt = narrowToInt value := by
  grind [narrowToInt]

/-! ## Items -/

/-- What is kept of an item. -/
structure SamePersisted (item restored : NavigationItem) : Prop where
  virtualURL : restored.getVirtualURL = item.getVirtualURL
  referrer : restored.referrer = item.referrer
  title : restored.title = item.title
  pageDisplayState : restored.pageDisplayState = item.pageDisplayState
  timestamp : restored.timestamp = item.timestamp
  postData : restored.postData = item.postData
  httpRequestHeaders : restored.httpRequestHeaders = item.httpRequestHeaders
  userAgentType : restored.userAgentType = item.userAgentType
  shouldSkipRepostFormConfirmation :
    restored.shouldSkipRepostFormConfirmation = item.shouldSkipRepostFormConfirmation

variable {url : GURL}

section Items

variable {env : NavigationEnvironment}

theorem GURL.eq_empty_of_isEmpty (isEmpty : url.isEmpty) : url = .empty := by
  exact congrArg GURL.mk (eq_of_beq isEmpty)

theorem getVirtualURL_setVirtualURL (item : NavigationItem) (notEmpty : ¬ url.isEmpty) :
    (item.setVirtualURL url).getVirtualURL = url := by
  unfold NavigationItem.setVirtualURL NavigationItem.getVirtualURL
  dsimp only
  by_cases same : url = item.url
  · rw [if_pos same, if_pos (show GURL.empty.isEmpty from rfl), same]
  · rw [if_neg same, if_neg notEmpty]

/-- A URL that is rewritten is still the virtual URL of its item. -/
theorem getVirtualURL_rewriteItemURLIfNecessary {item : NavigationItem}
    (emptyStays : env.rewriteURLIfNecessary .empty = none)
    (plain : item.virtualUrl = .empty) :
    (rewriteItemURLIfNecessary env item).getVirtualURL = item.url := by
  unfold rewriteItemURLIfNecessary
  split
  case h_1 url rewritten =>
    grind [getVirtualURL_setVirtualURL, GURL.eq_empty_of_isEmpty]
  case h_2 =>
    unfold NavigationItem.getVirtualURL
    rw [plain]
    rfl

theorem rewriteItemURLIfNecessary_eq (env : NavigationEnvironment)
    (item : NavigationItem) :
    ∃ url virtualUrl, rewriteItemURLIfNecessary env item =
      { item with url := url, virtualUrl := virtualUrl } := by
  unfold rewriteItemURLIfNecessary
  split
  · exact ⟨_, _, rfl⟩
  · exact ⟨_, _, rfl⟩

def reloadedItem (env : NavigationEnvironment) (item : NavigationItem) : NavigationItem :=
  rewriteItemURLIfNecessary env
    (NavigationItemStorageBuilder.buildNavigationItemImpl
      (NavigationItemStorageBuilder.buildStorage item))

theorem samePersisted_reloadedItem (emptyStays : env.rewriteURLIfNecessary .empty = none)
    (item : NavigationItem) : SamePersisted item (reloadedItem env item) := by
  have virtualURL : (reloadedItem env item).getVirtualURL = item.getVirtualURL :=
    getVirtualURL_rewriteItemURLIfNecessary emptyStays rfl
  obtain ⟨_, _, same⟩ := rewriteItemURLIfNecessary_eq env
    (NavigationItemStorageBuilder.buildNavigationItemImpl
      (NavigationItemStorageBuilder.buildStorage item))
  constructor
  · exact virtualURL
  all_goals
    unfold reloadedItem
    rw [same]
    rfl

end Items

/-! ## Archives -/

section Archives

variable {env : StorageEnvironment}

structure ParsesBack (env : StorageEnvironment) : Prop where
  empty : env.parseURL "" = .empty
  valid : ∀ url, env.isValid url → env.parseURL url.spec = url

def HasSpec (env : NavigationEnvironment) (url : GURL) : Prop :=
  env.isValid url ∨ url.isEmpty

theorem HasSpec.validSpec {env : NavigationEnvironment} {url : GURL}
    (hasSpec : HasSpec env url) : url.validSpec env = some url.spec := by
  unfold GURL.validSpec
  rw [dcheck_of (show env.isValid url ∨ url.isEmpty from hasSpec)]
  rfl

theorem ParsesBack.spec (parses : ParsesBack env)
    (hasSpec : HasSpec env.toNavigationEnvironment url) :
    env.parseURL url.spec = url := by
  rcases hasSpec with valid | isEmpty
  · exact parses.valid url valid
  · rw [GURL.eq_empty_of_isEmpty isEmpty]
    exact parses.empty

namespace CRWNavigationItemStorage

variable {storage : CRWNavigationItemStorage}

/-- The URLs of an item that is stored have texts. -/
structure HasSpecs (env : NavigationEnvironment) (storage : CRWNavigationItemStorage) :
    Prop where
  virtualURL : HasSpec env storage.virtualURL
  referrer : HasSpec env storage.referrer.url

/-- Each field is read from where it was written. -/
theorem initWithCoder_encodeFields (storage : CRWNavigationItemStorage)
    (virtualSpec referrerSpec : String) :
    initWithCoder env (storage.encodeFields virtualSpec referrerSpec) =
      { storage with
        virtualURL := env.parseURL virtualSpec
        referrer := ⟨env.parseURL referrerSpec, storage.referrer.policy⟩ } := by
  have userAgentType :
      decodeUserAgentType (storage.encodeFields virtualSpec referrerSpec) = storage.userAgentType :=
    storage.userAgentType.getUserAgentTypeWithDescription_description
  have postData :
      decodePostData (storage.encodeFields virtualSpec referrerSpec) = storage.postData := by
    have stored : (storage.encodeFields virtualSpec referrerSpec).decodeObjectForKey
        kNavigationItemStoragePOSTDataKey = storage.postData.map ItemObject.data := rfl
    unfold decodePostData
    rw [stored]
    cases storage.postData <;> rfl
  have headers : decodeHttpRequestHeaders (storage.encodeFields virtualSpec referrerSpec) =
      storage.httpRequestHeaders := by
    have stored : (storage.encodeFields virtualSpec referrerSpec).decodeObjectForKey
        kNavigationItemStorageHTTPRequestHeadersKey =
          storage.httpRequestHeaders.map ItemObject.headers := rfl
    unfold decodeHttpRequestHeaders
    rw [stored]
    cases storage.httpRequestHeaders <;> rfl
  unfold initWithCoder
  rw [userAgentType, postData, headers]
  rfl

/-- An item is read from its archive as it was. -/
theorem initWithCoder_encodeWithCoder (parses : ParsesBack env)
    (hasSpecs : HasSpecs env.toNavigationEnvironment storage) :
    ∃ archive, storage.encodeWithCoder env = some archive ∧
      initWithCoder env archive = storage := by
  simp [encodeWithCoder, hasSpecs.virtualURL.validSpec, hasSpecs.referrer.validSpec,
    initWithCoder_encodeFields, parses.spec hasSpecs.virtualURL, parses.spec hasSpecs.referrer]

end CRWNavigationItemStorage

namespace HistoryStorage

variable {storage : HistoryStorage} {archive : SessionArchive}
variable {itemStorages : List CRWNavigationItemStorage}

theorem mapM_encodeWithCoder (parses : ParsesBack env)
    (hasSpecs : ∀ itemStorage ∈ itemStorages,
      itemStorage.HasSpecs env.toNavigationEnvironment) :
    ∃ archives, (itemStorages.mapM fun itemStorage =>
        itemStorage.encodeWithCoder env) = some archives ∧
      archives.map (CRWNavigationItemStorage.initWithCoder env) = itemStorages := by
  induction itemStorages with
  | nil => exact ⟨[], rfl, rfl⟩
  | cons first _ ih =>
    obtain ⟨archive, encoded, decoded⟩ :=
      CRWNavigationItemStorage.initWithCoder_encodeWithCoder parses
        (hasSpecs first List.mem_cons_self)
    obtain ⟨archives, encodedRest, decodedRest⟩ :=
      ih (by grind)
    simp [encoded, encodedRest, decoded, decodedRest]

theorem length_of_mapM {archives : List CRWNavigationItemStorage.ItemArchive}
    (encoded : (itemStorages.mapM fun itemStorage =>
      itemStorage.encodeWithCoder env) = some archives) :
    archives.length = itemStorages.length := by
  induction itemStorages generalizing archives with
  | nil =>
    cases encoded
    rfl
  | cons _ _ _ =>
    rw [List.mapM_cons] at encoded
    obtain ⟨archive, -, encoded⟩ := bind_eq_some encoded
    obtain ⟨others, encodedRest, encoded⟩ := bind_eq_some encoded
    grind

/-- What is read from an archive of a session. -/
theorem initWithCoder_of_encodeWithCoder
    (encoded : storage.encodeWithCoder env = some archive) :
    ∃ archives, (storage.itemStorages.mapM fun itemStorage =>
        itemStorage.encodeWithCoder env) = some archives ∧
      initWithCoder env archive =
        { hasOpener := storage.hasOpener
          lastCommittedItemIndex :=
            if storage.itemStorages = [] then -1 else narrowToInt storage.lastCommittedItemIndex
          previousItemIndex := narrowToInt storage.previousItemIndex
          itemStorages := archives.map (CRWNavigationItemStorage.initWithCoder env) } := by
  obtain ⟨archives, encodedItems, encoded⟩ := bind_eq_some encoded
  cases encoded
  refine ⟨archives, encodedItems, ?_⟩
  have none : archives.map (CRWNavigationItemStorage.initWithCoder env) = [] ↔
      storage.itemStorages = [] := by
    simp [← List.length_eq_zero_iff, length_of_mapM encodedItems]
  rw [← if_congr none rfl rfl]
  rfl

/-- A session is read from its archive as it was. -/
theorem initWithCoder_encodeWithCoder (parses : ParsesBack env)
    (hasSpecs : ∀ itemStorage ∈ storage.itemStorages,
      itemStorage.HasSpecs env.toNavigationEnvironment)
    (last : narrowToInt storage.lastCommittedItemIndex = storage.lastCommittedItemIndex)
    (previous : narrowToInt storage.previousItemIndex = storage.previousItemIndex)
    (nil : storage.itemStorages = [] → storage.lastCommittedItemIndex = -1) :
    ∃ archive, storage.encodeWithCoder env = some archive ∧
      initWithCoder env archive = storage := by
  obtain ⟨archives, encodedItems, decodedItems⟩ := mapM_encodeWithCoder parses hasSpecs
  have encoded : ∃ archive, storage.encodeWithCoder env = some archive := by
    simp [encodeWithCoder, encodedItems]
  obtain ⟨archive, encoded⟩ := encoded
  obtain ⟨others, encodedOthers, decoded⟩ := initWithCoder_of_encodeWithCoder encoded
  rw [encodedItems] at encodedOthers
  cases encodedOthers
  refine ⟨archive, encoded, decoded.trans ?_⟩
  have index : (if storage.itemStorages = [] then -1
      else narrowToInt storage.lastCommittedItemIndex) = storage.lastCommittedItemIndex := by
    grind
  rw [index, previous, decodedItems]

end HistoryStorage

end Archives

namespace SessionController

open SessionStorageBuilder

/-! ## Histories -/

structure SameHistory (controller restored : SessionController) : Prop where
  items : List.Forall₂ SamePersisted controller.items restored.items
  lastCommittedItemIndex : restored.lastCommittedItemIndex = controller.lastCommittedItemIndex
  previousItemIndex : restored.previousItemIndex = controller.previousItemIndex

/-- A storage that is read back, from memory or from its archive. -/
def Saved (env : StorageEnvironment) (storage stored : HistoryStorage) : Prop :=
  stored = storage ∨ ∃ archive, storage.encodeWithCoder env = some archive ∧
    stored = .initWithCoder env archive

/-- The histories that come of any operations of the controller, of changes to its items, and
of being saved and restored. -/
inductive Reachable (env : StorageEnvironment) : SessionController → Prop where
  | initial {controller : SessionController} (starts : Initial controller) :
      Reachable env controller
  | operation {before after : SessionController} {operation : Operation}
      (reachable : Reachable env before)
      (performed : before.perform env.toNavigationEnvironment operation = some after) :
      Reachable env after
  | itemChanged {controller : SessionController} (index : Nat) (item : NavigationItem)
      (reachable : Reachable env controller) :
      Reachable env { controller with items := controller.items.set index item }
  | restored {before after : SessionController} {storage stored : HistoryStorage}
      {hasOpener isOpened : Bool} (reachable : Reachable env before)
      (built : buildStorage env.toNavigationEnvironment hasOpener before = some storage)
      (saved : Saved env storage stored)
      (extracted : extractSessionState env.toNavigationEnvironment initWithBrowserState
        stored = some (isOpened, after)) :
      Reachable env after

section Histories

variable {env : StorageEnvironment} {controller before after : SessionController}
variable {storage stored : HistoryStorage} {hasOpener isOpened : Bool}

theorem buildStorage_eq_some
    (built : buildStorage env.toNavigationEnvironment hasOpener controller = some storage) :
    ∃ last, controller.getLastCommittedItemIndex env.toNavigationEnvironment = some last ∧
      (-2 ^ 31 ≤ controller.previousItemIndex ∧ controller.previousItemIndex < 2 ^ 31) ∧
      storage = ⟨hasOpener, last, controller.previousItemIndex,
        controller.items.map NavigationItemStorageBuilder.buildStorage⟩ := by
  obtain ⟨last, isLast, built⟩ := bind_eq_some built
  obtain ⟨previous, isPrevious, built⟩ := bind_eq_some built
  obtain ⟨bounds, isPrevious⟩ := dcheck_then isPrevious
  grind

/-- A history without items is saved without an index. -/
theorem getLastCommittedItemIndex_of_nil {last : Int} (none : controller.items = [])
    (isLast :
      controller.getLastCommittedItemIndex env.toNavigationEnvironment = some last) :
    last = -1 := by
  obtain ⟨item, -, isLast⟩ := bind_eq_some isLast
  grind

/-- What is read back of a storage has its number of items and its previous index. -/
theorem Saved.kept (saved : Saved env storage stored)
    (bounds : -2 ^ 31 ≤ storage.previousItemIndex ∧ storage.previousItemIndex < 2 ^ 31)
    (nil : storage.itemStorages = [] → storage.lastCommittedItemIndex = -1) :
    stored.itemStorages.length = storage.itemStorages.length ∧
      stored.previousItemIndex = storage.previousItemIndex ∧
      (stored.itemStorages = [] → stored.lastCommittedItemIndex = -1) := by
  rcases saved with rfl | ⟨archive, encoded, rfl⟩
  · exact ⟨rfl, rfl, nil⟩
  · obtain ⟨_, encodedItems, decoded⟩ :=
      HistoryStorage.initWithCoder_of_encodeWithCoder encoded
    have length := HistoryStorage.length_of_mapM encodedItems
    rw [decoded]
    refine ⟨?_, narrowToInt_eq bounds.1 bounds.2, fun none => if_pos ?_⟩
    · rw [List.length_map, length]
    · rw [← List.length_eq_zero_iff, ← length, List.length_eq_zero_iff]
      exact List.map_eq_nil_iff.mp none

/-- A restored history has the items of the storage and its indices, which are inside it. -/
theorem extractSessionState_eq_some
    (extracted : extractSessionState env.toNavigationEnvironment initWithBrowserState
      stored = some (isOpened, after)) :
    after = { initWithNavigationItems (stored.itemStorages.map fun itemStorage =>
          rewriteItemURLIfNecessary env.toNavigationEnvironment
            (NavigationItemStorageBuilder.buildNavigationItemImpl itemStorage))
          (BitVec.ofInt 64 (narrowToInt stored.lastCommittedItemIndex)) with
        previousItemIndex := narrowToInt stored.previousItemIndex } ∧
      (stored.itemStorages ≠ [] → 0 ≤ narrowToInt stored.lastCommittedItemIndex) := by
  obtain ⟨restored, restoring, extracted⟩ := bind_eq_some extracted
  obtain ⟨-, restoring⟩ := dcheck_then restoring
  obtain ⟨pendingItem, -, restoring⟩ := bind_eq_some restoring
  grind [dcheck_then]

theorem wellIndexed_restored (wf : before.WellIndexed)
    (built : buildStorage env.toNavigationEnvironment hasOpener before = some storage)
    (saved : Saved env storage stored)
    (extracted : extractSessionState env.toNavigationEnvironment initWithBrowserState
      stored = some (isOpened, after)) : after.WellIndexed := by
  obtain ⟨last, isLast, bounds, rfl⟩ := buildStorage_eq_some built
  obtain ⟨length, previous, nil⟩ := saved.kept bounds fun none =>
    getLastCommittedItemIndex_of_nil (List.map_eq_nil_iff.mp none) isLast
  obtain ⟨rfl, nonneg⟩ := extractSessionState_eq_some extracted
  have starts : Initial (initWithNavigationItems (stored.itemStorages.map fun itemStorage =>
      rewriteItemURLIfNecessary env.toNavigationEnvironment
        (NavigationItemStorageBuilder.buildNavigationItemImpl itemStorage))
      (BitVec.ofInt 64 (narrowToInt stored.lastCommittedItemIndex))) := by
    refine .restored ?_
    unfold StartsInside
    rw [toInt_ofInt_narrowToInt]
    split
    case isTrue none =>
      rw [nil (List.map_eq_nil_iff.mp none)]
      decide
    case isFalse nonempty => grind
  refine ⟨starts.wellIndexed.lastCommitted, ?_, starts.wellIndexed.pending,
    starts.wellIndexed.empty⟩
  unfold IsIndex
  dsimp only [initWithNavigationItems]
  rw [previous, narrowToInt_eq bounds.1 bounds.2, List.length_map, length, List.length_map]
  exact wf.previous

theorem Reachable.wellIndexed (reachable : Reachable env controller) :
    controller.WellIndexed := by
  induction reachable with
  | initial starts => exact starts.wellIndexed
  | operation _ performed ih => exact perform_wellIndexed ih performed
  | itemChanged _ _ _ ih =>
    exact KeepsIndices.wellIndexed ⟨List.length_set, rfl, rfl, .inl rfl⟩ ih
  | restored _ built saved extracted ih => exact wellIndexed_restored ih built saved extracted

/-! ## Saving and restoring -/

/-- Unless it is the page that restores sessions, the last committed item is saved as such. -/
theorem getLastCommittedItemIndex_of_shown {env : NavigationEnvironment}
    (wf : controller.WellIndexed) (fits : controller.items.length < 2 ^ 31)
    (shown : ∀ item, controller.lastCommittedItem = some (some item) →
      env.isRestoreSessionUrl item.url = false) :
    controller.getLastCommittedItemIndex env =
      some controller.lastCommittedItemIndex := by
  have range := wf.lastCommitted
  unfold IsIndex at range
  unfold getLastCommittedItemIndex
  by_cases none : controller.lastCommittedItemIndex = -1
  · have item : controller.lastCommittedItem = some .none := if_pos none
    unfold getLastCommittedItem
    rw [item, none]
    rfl
  · obtain ⟨item, found⟩ := Option.isSome_iff_exists.mp
      ((at?_isSome_iff controller.items controller.lastCommittedItemIndex).mpr (by omega))
    have isItem : controller.lastCommittedItem = some (some item) := by
      simp [lastCommittedItem, if_neg none, found]
    have kept : controller.getLastCommittedItem env = some (some item) := by
      simp [getLastCommittedItem, isItem, shown]
    rw [kept]
    change (if controller.items = [] then some (-1)
      else some (narrowToInt controller.lastCommittedItemIndex)) = _
    rw [if_neg (mt wf.empty.mpr none), narrowToInt_eq (by omega) (by omega)]

theorem restore_eq_some {items : List NavigationItem} {lastCommittedItemIndex : Int}
    (inside : lastCommittedItemIndex < items.length)
    (nonneg : items = [] ∨ 0 ≤ lastCommittedItemIndex) :
    initWithBrowserState.restore lastCommittedItemIndex items =
      some (initWithNavigationItems items (BitVec.ofInt 64 lastCommittedItemIndex)) := by
  have pending : initWithBrowserState.pendingItem = some none := rfl
  simp [restore, dcheck_of (show initWithBrowserState.items = [] from rfl), pending, inside, nonneg]

/-- A storage with the items and the indices of a history restores it. -/
theorem extractSessionState_restores (wf : controller.WellIndexed)
    (fits : controller.items.length < 2 ^ 31)
    (emptyStays : env.rewriteURLIfNecessary .empty = none) :
    ∃ restored, extractSessionState env.toNavigationEnvironment initWithBrowserState
        ⟨hasOpener, controller.lastCommittedItemIndex, controller.previousItemIndex,
          controller.items.map NavigationItemStorageBuilder.buildStorage⟩ =
        some (hasOpener, restored) ∧ SameHistory controller restored := by
  have range := wf.lastCommitted
  have previous := wf.previous
  unfold IsIndex at range previous
  have items : (controller.items.map NavigationItemStorageBuilder.buildStorage).map
      (fun itemStorage => rewriteItemURLIfNecessary env.toNavigationEnvironment
        (NavigationItemStorageBuilder.buildNavigationItemImpl itemStorage)) =
      controller.items.map (reloadedItem env.toNavigationEnvironment) :=
    List.map_map
  have length : (controller.items.map
      (reloadedItem env.toNavigationEnvironment)).length = controller.items.length :=
    List.length_map _
  have nonneg : controller.items.map (reloadedItem env.toNavigationEnvironment) = [] ∨
      0 ≤ controller.lastCommittedItemIndex := by
    by_cases none : controller.items = []
    · simp [none]
    · have committed := mt wf.empty.mp none
      exact .inr (by omega)
  have word : (BitVec.ofInt 64 controller.lastCommittedItemIndex).toInt =
      controller.lastCommittedItemIndex := by
    grind
  refine ⟨{ initWithNavigationItems
      (controller.items.map (reloadedItem env.toNavigationEnvironment))
      (BitVec.ofInt 64 controller.lastCommittedItemIndex) with
    previousItemIndex := controller.previousItemIndex }, ?_, ?_, ?_, rfl⟩
  · unfold extractSessionState
    grind [narrowToInt_eq, restore_eq_some]
  · refine List.forall₂_map_right_iff.mpr (List.forall₂_same.mpr fun item _ => ?_)
    exact samePersisted_reloadedItem emptyStays item
  · unfold initWithNavigationItems
    dsimp only
    rw [word, length]
    omega

/-- A history is restored as it was, directly and from an archive. -/
theorem reachable_restores (env : StorageEnvironment) (controller : SessionController)
    (hasOpener : Bool) (reachable : Reachable env controller)
    (fits : controller.items.length < 2 ^ 31)
    (emptyStays : env.rewriteURLIfNecessary .empty = none)
    (shown : ∀ item, controller.lastCommittedItem = some (some item) →
      env.isRestoreSessionUrl item.url = false) :
    ∃ storage, buildStorage env.toNavigationEnvironment hasOpener controller =
        some storage ∧
      (∃ restored, extractSessionState env.toNavigationEnvironment initWithBrowserState
        storage = some (hasOpener, restored) ∧ SameHistory controller restored) ∧
      (ParsesBack env →
        (∀ item ∈ controller.items,
          HasSpec env.toNavigationEnvironment item.getVirtualURL ∧
            HasSpec env.toNavigationEnvironment item.referrer.url) →
        ∃ archive restored, storage.encodeWithCoder env = some archive ∧
          extractSessionState env.toNavigationEnvironment initWithBrowserState
            (.initWithCoder env archive) = some (hasOpener, restored) ∧
          SameHistory controller restored) := by
  have wf := reachable.wellIndexed
  have range := wf.lastCommitted
  have previous := wf.previous
  unfold IsIndex at range previous
  let storage : HistoryStorage := ⟨hasOpener, controller.lastCommittedItemIndex,
    controller.previousItemIndex, controller.items.map NavigationItemStorageBuilder.buildStorage⟩
  have extracts : ∃ restored, extractSessionState env.toNavigationEnvironment
      initWithBrowserState storage = some (hasOpener, restored) ∧
        SameHistory controller restored :=
    extractSessionState_restores wf fits emptyStays
  refine ⟨storage, ?_, extracts, fun parses hasSpecs => ?_⟩
  · unfold buildStorage getPreviousItemIndex
    rw [getLastCommittedItemIndex_of_shown wf fits shown, dcheck_of ⟨by omega, by omega⟩]
    rfl
  · have storedSpecs : ∀ itemStorage ∈ storage.itemStorages,
        itemStorage.HasSpecs env.toNavigationEnvironment := by
      intro itemStorage mem
      obtain ⟨item, isItem, rfl⟩ := List.mem_map.mp mem
      exact ⟨(hasSpecs item isItem).1, (hasSpecs item isItem).2⟩
    have lastFits : narrowToInt controller.lastCommittedItemIndex =
        controller.lastCommittedItemIndex := narrowToInt_eq (by omega) (by omega)
    have previousFits : narrowToInt controller.previousItemIndex =
        controller.previousItemIndex := narrowToInt_eq (by omega) (by omega)
    obtain ⟨archive, encoded, decoded⟩ :=
      HistoryStorage.initWithCoder_encodeWithCoder parses storedSpecs lastFits previousFits
        fun none => wf.empty.mpr (List.map_eq_nil_iff.mp none)
    grind

end Histories

/-- URLs whose texts are their own, none of which is rewritten. -/
def plainStorageEnvironment : StorageEnvironment :=
  { plainEnvironment with parseURL := GURL.mk }

def threeItemsBack : SessionController :=
  { initWithNavigationItems threeItems 1#64 with previousItemIndex := -1 }

theorem reachable_restores_threeItemsBack :
    ∃ storage, buildStorage plainStorageEnvironment.toNavigationEnvironment true threeItemsBack =
        some storage ∧
      (∃ restored, extractSessionState plainStorageEnvironment.toNavigationEnvironment
        initWithBrowserState storage = some (true, restored) ∧
          SameHistory threeItemsBack restored) ∧
      ∃ archive restored, storage.encodeWithCoder plainStorageEnvironment = some archive ∧
        extractSessionState plainStorageEnvironment.toNavigationEnvironment initWithBrowserState
          (.initWithCoder plainStorageEnvironment archive) = some (true, restored) ∧
        SameHistory threeItemsBack restored := by
  have reachable : Reachable plainStorageEnvironment threeItemsBack :=
    .initial (.restored (by unfold StartsInside; decide))
  obtain ⟨storage, built, restores, archived⟩ :=
    reachable_restores plainStorageEnvironment threeItemsBack true reachable (by decide) rfl
      fun _ _ => rfl
  exact ⟨storage, built, restores, archived ⟨rfl, fun _ _ => rfl⟩ fun _ _ => ⟨.inl rfl, .inl rfl⟩⟩

def loadRestorePage : Operation :=
  .legacyAddPendingItem ⟨"restore"⟩ ⟨.empty, referrerPolicyDefault⟩ PageTransition.link
    .browserInitiated .inherit

def strictStorageEnvironment : StorageEnvironment :=
  { restoringEnvironment with
    isValid := fun url => url.spec ≠ "invalid"
    parseURL := GURL.mk }

/-- While the page that restores sessions is the last committed one, the session is saved without
an index, and such a storage cannot be restored; an item with an invalid URL cannot be put into an
archive. -/
theorem restorePage_fails :
    (∃ controller storage, Reachable strictStorageEnvironment controller ∧
      buildStorage strictStorageEnvironment.toNavigationEnvironment false controller =
        some storage ∧
      controller.lastCommittedItemIndex = 0 ∧ storage.lastCommittedItemIndex = -1 ∧
      extractSessionState strictStorageEnvironment.toNavigationEnvironment initWithBrowserState
        storage = none) ∧
    ∃ controller storage, Reachable strictStorageEnvironment controller ∧
      buildStorage strictStorageEnvironment.toNavigationEnvironment false controller =
        some storage ∧
      storage.encodeWithCoder strictStorageEnvironment = none := by
  constructor
  · have loaded := @Reachable.operation strictStorageEnvironment _ _ loadRestorePage
      (.initial .empty) rfl
    have committed := @Reachable.operation _ _ _ (.commitPendingItem 1) loaded rfl
    exact ⟨_, _, committed, rfl, rfl, rfl, rfl⟩
  · have starts : StartsInside [{ url := ⟨"invalid"⟩ }] 0#64 := by
      unfold StartsInside
      decide
    exact ⟨_, _, .initial (.restored starts), rfl, rfl⟩

end SessionController

end ChromiumIos
