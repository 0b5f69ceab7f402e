import ChromiumIos.Lib.KeyedArchive
import ChromiumIos.Navigation.SessionController

/-!
# Saving and restoring sessions

The storage of a session holds the committed items and two indices.  An item is
stored with its virtual URL only, which is its URL when it is restored, unless it
is rewritten.  Storages are written to keyed archives and read from them.

The certificates that a session accepts and the user data of its tab are stored
along with it and left out here.
-/

namespace ChromiumIos

open Lib

/-- The URL library also parses texts. -/
structure StorageEnvironment extends NavigationEnvironment where
  parseURL : String → GURL

/-- The conversion of a machine word to an `int`. -/
def narrowToInt (value : Int) : Int := value.bmod (2 ^ 32)

variable (env : NavigationEnvironment) (controller : SessionController)

def GURL.validSpec (url : GURL) : Checked String := do
  dcheck (env.isValid url ∨ url.isEmpty)
  return url.spec

namespace UserAgentType

def kUserAgentTypeNoneDescription : String := "NONE"
def kUserAgentTypeMobileDescription : String := "MOBILE"
def kUserAgentTypeDesktopDescription : String := "DESKTOP"

def getUserAgentTypeDescription : UserAgentType → String
  | .none => kUserAgentTypeNoneDescription
  | .mobile => kUserAgentTypeMobileDescription
  | .desktop => kUserAgentTypeDesktopDescription

def getUserAgentTypeWithDescription (description : String) : UserAgentType :=
  if description = kUserAgentTypeMobileDescription then .mobile
  else if description = kUserAgentTypeDesktopDescription then .desktop
  else .none

theorem getUserAgentTypeWithDescription_description (type : UserAgentType) :
    getUserAgentTypeWithDescription (getUserAgentTypeDescription type) = type := by
  cases type <;> decide

end UserAgentType

/-! ## Items -/

structure CRWNavigationItemStorage where
  virtualURL : GURL
  referrer : Referrer
  timestamp : Int
  title : String
  displayState : PageDisplayState
  shouldSkipRepostFormConfirmation : Bool
  userAgentType : UserAgentType
  postData : Option String
  httpRequestHeaders : Option (List (String × String))
  deriving DecidableEq, Repr

namespace NavigationItemStorageBuilder

def buildStorage (item : NavigationItem) : CRWNavigationItemStorage where
  virtualURL := item.getVirtualURL
  referrer := item.referrer
  timestamp := item.timestamp
  title := item.title
  displayState := item.pageDisplayState
  shouldSkipRepostFormConfirmation := item.shouldSkipRepostFormConfirmation
  userAgentType := item.userAgentType
  postData := item.postData
  httpRequestHeaders := item.httpRequestHeaders

def buildNavigationItemImpl (storage : CRWNavigationItemStorage) : NavigationItem where
  originalRequestUrl := storage.virtualURL
  url := storage.virtualURL
  referrer := storage.referrer
  timestamp := storage.timestamp
  title := storage.title
  pageDisplayState := storage.displayState
  shouldSkipRepostFormConfirmation := storage.shouldSkipRepostFormConfirmation
  transitionType := PageTransition.reload
  userAgentType := storage.userAgentType
  postData := storage.postData
  httpRequestHeaders := storage.httpRequestHeaders

end NavigationItemStorageBuilder

/-- What is rewritten is loaded under the new URL and shown under the old one. -/
def rewriteItemURLIfNecessary (item : NavigationItem) : NavigationItem :=
  match env.rewriteURLIfNecessary item.url with
  | some url => (item.setURL url).setVirtualURL item.url
  | none => item

namespace CRWNavigationItemStorage

def kNavigationItemStorageURLKey : String := "virtualUrlString"
def kNavigationItemStorageReferrerURLKey : String := "referrerUrlString"
def kNavigationItemStorageReferrerURLDeprecatedKey : String := "referrer"
def kNavigationItemStorageReferrerPolicyKey : String := "referrerPolicy"
def kNavigationItemStorageTimestampKey : String := "timestamp"
def kNavigationItemStorageTitleKey : String := "title"
def kNavigationItemStoragePageDisplayStateKey : String := "state"
def kNavigationItemStoragePOSTDataKey : String := "POSTData"
def kNavigationItemStorageHTTPRequestHeadersKey : String := "httpHeaders"
def kNavigationItemStorageSkipRepostFormConfirmationKey : String :=
  "skipResubmitDataConfirmation"
def kNavigationItemStorageUserAgentTypeKey : String := "userAgentType"

inductive ItemObject where
  | url (value : String)
  | string (value : String)
  | displayState (value : DisplayDictionary)
  | data (value : String)
  | headers (value : List (String × String))
  deriving DecidableEq, Repr

abbrev ItemArchive := KeyedArchive ItemObject

def encodeFields (storage : CRWNavigationItemStorage) (virtualSpec referrerSpec : String) :
    ItemArchive :=
  KeyedArchive.empty
    |>.encode kNavigationItemStorageURLKey (.bytes virtualSpec)
    |>.encode kNavigationItemStorageReferrerURLKey (.bytes referrerSpec)
    |>.encode kNavigationItemStorageReferrerPolicyKey (.int storage.referrer.policy)
    |>.encode kNavigationItemStorageTimestampKey (.int64 storage.timestamp)
    |>.encode kNavigationItemStorageTitleKey (.object (some (.string storage.title)))
    |>.encode kNavigationItemStoragePageDisplayStateKey
      (.object (some (.displayState storage.displayState.getSerialization)))
    |>.encode kNavigationItemStorageSkipRepostFormConfirmationKey
      (.bool storage.shouldSkipRepostFormConfirmation)
    |>.encode kNavigationItemStorageUserAgentTypeKey
      (.bytes storage.userAgentType.getUserAgentTypeDescription)
    |>.encode kNavigationItemStoragePOSTDataKey (.object (storage.postData.map .data))
    |>.encode kNavigationItemStorageHTTPRequestHeadersKey
      (.object (storage.httpRequestHeaders.map .headers))

variable (env : StorageEnvironment)

def encodeWithCoder (storage : CRWNavigationItemStorage) : Checked ItemArchive := do
  let virtualSpec ← storage.virtualURL.validSpec env.toNavigationEnvironment
  let referrerSpec ← storage.referrer.url.validSpec env.toNavigationEnvironment
  return storage.encodeFields virtualSpec referrerSpec

variable (archive : ItemArchive)

def decodeVirtualURL : GURL :=
  if archive.containsValueForKey kNavigationItemStorageURLKey then
    env.parseURL (archive.decodeBytesForKey kNavigationItemStorageURLKey)
  else .empty

def decodeReferrer : Referrer :=
  if archive.containsValueForKey kNavigationItemStorageReferrerURLKey then
    ⟨env.parseURL (archive.decodeBytesForKey kNavigationItemStorageReferrerURLKey),
      (archive.decodeIntForKey kNavigationItemStorageReferrerPolicyKey).toNat⟩
  else
    -- Older archives hold the URL as an object.
    match archive.decodeObjectForKey kNavigationItemStorageReferrerURLDeprecatedKey with
    | some (.url value) => ⟨env.parseURL value, referrerPolicyDefault⟩
    | _ => ⟨.empty, referrerPolicyDefault⟩

def decodeUserAgentType : UserAgentType :=
  if archive.containsValueForKey kNavigationItemStorageUserAgentTypeKey then
    .getUserAgentTypeWithDescription
      (archive.decodeBytesForKey kNavigationItemStorageUserAgentTypeKey)
  else .none

def decodeTitle : String :=
  match archive.decodeObjectForKey kNavigationItemStorageTitleKey with
  | some (.string title) => title
  | _ => ""

def decodeDisplayState : PageDisplayState :=
  match archive.decodeObjectForKey kNavigationItemStoragePageDisplayStateKey with
  | some (.displayState serialization) => .initWithSerialization serialization
  | _ => .initWithSerialization []

def decodePostData : Option String :=
  match archive.decodeObjectForKey kNavigationItemStoragePOSTDataKey with
  | some (.data data) => some data
  | _ => none

def decodeHttpRequestHeaders : Option (List (String × String)) :=
  match archive.decodeObjectForKey kNavigationItemStorageHTTPRequestHeadersKey with
  | some (.headers headers) => some headers
  | _ => none

def initWithCoder : CRWNavigationItemStorage where
  virtualURL := decodeVirtualURL env archive
  referrer := decodeReferrer env archive
  timestamp :=
    if archive.containsValueForKey kNavigationItemStorageTimestampKey then
      archive.decodeInt64ForKey kNavigationItemStorageTimestampKey
    else 0
  title := decodeTitle archive
  displayState := decodeDisplayState archive
  shouldSkipRepostFormConfirmation :=
    archive.decodeBoolForKey kNavigationItemStorageSkipRepostFormConfirmationKey
  userAgentType := decodeUserAgentType archive
  postData := decodePostData archive
  httpRequestHeaders := decodeHttpRequestHeaders archive

end CRWNavigationItemStorage

/-! ## Sessions -/

/-- The part of a session storage that describes the history. -/
structure HistoryStorage where
  hasOpener : Bool
  lastCommittedItemIndex : Int
  previousItemIndex : Int
  itemStorages : List CRWNavigationItemStorage
  deriving DecidableEq, Repr

namespace SessionController

/-- The last committed item does not count while it is the page that restores sessions. -/
def getLastCommittedItemIndex : Checked Int := do
  match ← controller.getLastCommittedItem env with
  | none => return -1
  | some _ =>
    if controller.items = [] then return -1
    else return narrowToInt controller.lastCommittedItemIndex

def getPreviousItemIndex : Checked Int := do
  dcheck (-2 ^ 31 ≤ controller.previousItemIndex ∧ controller.previousItemIndex < 2 ^ 31)
  return controller.previousItemIndex

/-- A manager restores a history only when it has none. -/
def restore (lastCommittedItemIndex : Int) (items : List NavigationItem) :
    Checked SessionController := do
  dcheck (controller.items = [])
  let pendingItem ← controller.pendingItem
  dcheck (pendingItem = none)
  dcheck (lastCommittedItemIndex < items.length)
  dcheck (items = [] ∨ 0 ≤ lastCommittedItemIndex)
  return initWithNavigationItems items (BitVec.ofInt 64 lastCommittedItemIndex)

end SessionController

namespace SessionStorageBuilder

def buildStorage (env : NavigationEnvironment) (hasOpener : Bool)
    (controller : SessionController) : Checked HistoryStorage := do
  let lastCommittedItemIndex ← controller.getLastCommittedItemIndex env
  let previousItemIndex ← controller.getPreviousItemIndex
  return {
    hasOpener := hasOpener
    lastCommittedItemIndex := lastCommittedItemIndex
    previousItemIndex := previousItemIndex
    itemStorages := controller.items.map NavigationItemStorageBuilder.buildStorage }

/-- Whether the tab has an opener, and its history. -/
def extractSessionState (storage : HistoryStorage) : Checked (Bool × SessionController) := do
  let items := storage.itemStorages.map fun itemStorage =>
    rewriteItemURLIfNecessary env
      (NavigationItemStorageBuilder.buildNavigationItemImpl itemStorage)
  let restored ← controller.restore (narrowToInt storage.lastCommittedItemIndex) items
  return (storage.hasOpener,
    { restored with previousItemIndex := narrowToInt storage.previousItemIndex })

end SessionStorageBuilder

namespace HistoryStorage

def kHasOpenerKey : String := "openedByDOM"
def kLastCommittedItemIndexKey : String := "lastCommittedItemIndex"
def kPreviousItemIndexKey : String := "previousItemIndex"
def kItemStoragesKey : String := "entries"
def kLastCommittedItemIndexDeprecatedKey : String := "currentNavigationIndex"
def kPreviousItemIndexDeprecatedKey : String := "previousNavigationIndex"

abbrev SessionArchive := KeyedArchive (List CRWNavigationItemStorage.ItemArchive)

variable (env : StorageEnvironment)

def encodeWithCoder (storage : HistoryStorage) : Checked SessionArchive := do
  let itemArchives ← storage.itemStorages.mapM fun itemStorage =>
    itemStorage.encodeWithCoder env
  return KeyedArchive.empty
    |>.encode kHasOpenerKey (.bool storage.hasOpener)
    |>.encode kLastCommittedItemIndexKey (.int (narrowToInt storage.lastCommittedItemIndex))
    |>.encode kPreviousItemIndexKey (.int (narrowToInt storage.previousItemIndex))
    |>.encode kItemStoragesKey (.object (some itemArchives))

/-- The index under its key, or else under the one that was used before. -/
def decodeIndex (archive : SessionArchive) (key deprecatedKey : String) : Int :=
  if archive.containsValueForKey key then archive.decodeIntForKey key
  else archive.decodeIntForKey deprecatedKey

def initWithCoder (archive : SessionArchive) : HistoryStorage :=
  let itemStorages := ((archive.decodeObjectForKey kItemStoragesKey).getD []).map
    (CRWNavigationItemStorage.initWithCoder env)
  { hasOpener := archive.decodeBoolForKey kHasOpenerKey
    -- Sessions without items once had the index 0.
    lastCommittedItemIndex :=
      if itemStorages = [] then -1
      else decodeIndex archive kLastCommittedItemIndexKey kLastCommittedItemIndexDeprecatedKey
    previousItemIndex :=
      decodeIndex archive kPreviousItemIndexKey kPreviousItemIndexDeprecatedKey
    itemStorages := itemStorages }

end HistoryStorage

end ChromiumIos
