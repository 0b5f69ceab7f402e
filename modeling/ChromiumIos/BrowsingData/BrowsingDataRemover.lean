import ChromiumIos.Lib.Runs

/-!
# The remover of browsing data

Requests to remove browsing data are queued and carried out one at a time.  A removal starts
sub-tasks, each with a completion closure that is counted; when the last one has been run,
the removal is complete and the next one is posted.  Sub-tasks may complete at any time
after they were started, some of them already while the others are being started.
-/

namespace ChromiumIos

open Lib

/-- The period that the user chose. -/
inductive TimePeriod where
  | lastHour | lastDay | lastWeek | fourWeeks | allTime
deriving DecidableEq

abbrev BrowsingDataRemoveMask := BitVec 32

variable (mask : BrowsingDataRemoveMask)

namespace BrowsingDataRemoveMask

def removeNothing : BrowsingDataRemoveMask := 0#32
def removeAppCache : BrowsingDataRemoveMask := 1#32 <<< 0
def removeCache : BrowsingDataRemoveMask := 1#32 <<< 1
def removeCookies : BrowsingDataRemoveMask := 1#32 <<< 2
def removeDownloads : BrowsingDataRemoveMask := 1#32 <<< 3
def removeFormData : BrowsingDataRemoveMask := 1#32 <<< 4
def removeHistory : BrowsingDataRemoveMask := 1#32 <<< 5
def removeIndexedDB : BrowsingDataRemoveMask := 1#32 <<< 6
def removeLocalStorage : BrowsingDataRemoveMask := 1#32 <<< 7
def removePasswords : BrowsingDataRemoveMask := 1#32 <<< 8
def removeWebSQL : BrowsingDataRemoveMask := 1#32 <<< 9
def removeCacheStorage : BrowsingDataRemoveMask := 1#32 <<< 11
def removeVisitedLinks : BrowsingDataRemoveMask := 1#32 <<< 12
def removeBookmarks : BrowsingDataRemoveMask := 1#32 <<< 13
def removeReadingList : BrowsingDataRemoveMask := 1#32 <<< 14
def removeLastUserAccount : BrowsingDataRemoveMask := 1#32 <<< 15

def isSet (flag : BrowsingDataRemoveMask) : Bool := mask &&& flag == flag

end BrowsingDataRemoveMask

inductive WKWebsiteDataType where
  | diskCache | memoryCache | offlineWebApplicationCache | sessionStorage | localStorage
  | webSQLDatabases | indexedDBDatabases | cookies
deriving DecidableEq

inductive ClearBrowsingDataFlag where
  | appCache | cookies | indexedDB | localStorage | webSQL | cacheStorage | visitedLinks
deriving DecidableEq

/-- What `RemoveImpl` starts with a completion closure, in the order of the source. -/
inductive RemovalSubTask where
  | synchronousClearOperations
  | deleteLastSessionFile
  | clearIOSSnapshots
  | clearCookies
  | deleteHistory
  | clearHostCache
  | loadKeywords
  | removeOriginURLs
  | removeLogins
  | clearAllStrikes
  | removeFormElements
  | clearHttpCache
  | removeExternalFiles
  | removeBookmarks
  | removeReadingListItems
  | clearNetworkingHistory
  | removeWebsiteData (types : List WKWebsiteDataType)
deriving DecidableEq

/-- Calls of services that do not report their completion. -/
inductive RemovalCall where
  | removeAutoGeneratedKeywords
  | suppressClipboardContent
  | clearTabRestoreEntries
  | deleteLastTabRestoreSession
  | removeOriginURLsModifiedBetween
  | removeFormElementsAddedBetween
  | removeAutofillDataModifiedBetween
  | refreshPersonalData
  | clearLanguageHistogram
  | resetZeroSuggestCachedResults
  | clearLastAccount
  | clearBrowsingData (types : List ClearBrowsingDataFlag)
deriving DecidableEq

inductive RemovalAction where
  | start (subTask : RemovalSubTask)
  | call (call : RemovalCall)

/-- The services and features that `RemoveImpl` finds when it runs. -/
structure RemovalServices where
  historyService : Bool
  ioThread : Bool
  /-- Whether there is a TemplateURLService, and it has loaded. -/
  keywordsModelLoaded : Option Bool
  tabRestoreService : Bool
  webDataService : Bool
  personalDataManager : Bool
  languageHistogram : Bool
  passwordStore : Bool
  legacyStrikeDatabase : Bool
  externalFileRemover : Bool
  webClearBrowsingData : Bool

/-- A closure made by `CreatePendingTaskCompletionClosure`, with what it was made for. -/
structure RemovalClosure where
  removal : Nat
  subTask : RemovalSubTask
deriving DecidableEq

/-- A removal that was requested; the requests are numbered in their order. -/
structure RemovalTask where
  removal : Nat
  deleteBegin : Nat
  deleteEnd : Nat
  mask : BrowsingDataRemoveMask
  hasCallback : Bool
deriving DecidableEq

inductive RemoverTask where
  | callback (removal : Nat)
  | notifyBrowsingDataRemoved (mask : BrowsingDataRemoveMask)
  | runNextTask
deriving DecidableEq

structure BrowsingDataRemoverImpl where
  isOffTheRecord : Bool
  hasSessionService : Bool
  hasBrowserState : Bool
  weakPtrsInvalidated : Bool
  isRemoving : Bool
  pendingTasksCount : Int
  removalQueue : List RemovalTask
  nextRemoval : Nat
  closures : List RemovalClosure
  postedTasks : List RemoverTask

inductive RemoverEvent where
  | requested (removal : Nat) (hasCallback : Bool)
  | removing (removal : Nat)
  | started (closure : RemovalClosure) (deleteBegin deleteEnd : Nat)
  | called (removal : Nat) (call : RemovalCall)
  | completed (closure : RemovalClosure)
  | notified (removal : Nat)
  | posted (removal : Nat)
  | ranCallback (removal : Nat)
  | browsingDataRemoved (mask : BrowsingDataRemoveMask)
  | shutdown
deriving DecidableEq

/-! ## What a removal starts -/

section Actions

open BrowsingDataRemoveMask RemovalAction RemovalSubTask RemovalCall

def onlyIf {Action : Type} (condition : Bool) (actions : List Action) : List Action :=
  if condition then actions else []

def dataTypesToRemove : List WKWebsiteDataType :=
  onlyIf (mask.isSet removeCacheStorage)
    [WKWebsiteDataType.diskCache, WKWebsiteDataType.memoryCache] ++
  onlyIf (mask.isSet removeAppCache) [WKWebsiteDataType.offlineWebApplicationCache] ++
  onlyIf (mask.isSet removeLocalStorage)
    [WKWebsiteDataType.sessionStorage, WKWebsiteDataType.localStorage] ++
  onlyIf (mask.isSet removeWebSQL) [WKWebsiteDataType.webSQLDatabases] ++
  onlyIf (mask.isSet removeIndexedDB) [WKWebsiteDataType.indexedDBDatabases] ++
  onlyIf (mask.isSet removeCookies) [WKWebsiteDataType.cookies]

def clearBrowsingDataFlags : List ClearBrowsingDataFlag :=
  onlyIf (mask.isSet removeAppCache) [ClearBrowsingDataFlag.appCache] ++
  onlyIf (mask.isSet removeCookies) [ClearBrowsingDataFlag.cookies] ++
  onlyIf (mask.isSet removeIndexedDB) [ClearBrowsingDataFlag.indexedDB] ++
  onlyIf (mask.isSet removeLocalStorage) [ClearBrowsingDataFlag.localStorage] ++
  onlyIf (mask.isSet removeWebSQL) [ClearBrowsingDataFlag.webSQL] ++
  onlyIf (mask.isSet removeCacheStorage) [ClearBrowsingDataFlag.cacheStorage] ++
  onlyIf (mask.isSet removeVisitedLinks) [ClearBrowsingDataFlag.visitedLinks]

variable (services : RemovalServices)

def removeDataFromWKWebsiteDataStore (mask : BrowsingDataRemoveMask) : List RemovalAction :=
  if services.webClearBrowsingData then
    [call (clearBrowsingData (clearBrowsingDataFlags mask))]
  else
    onlyIf (!(dataTypesToRemove mask).isEmpty) [start (removeWebsiteData (dataTypesToRemove mask))]

/-- The history of a browser state that is not off the record. -/
def removeHistoryData : List RemovalAction :=
  onlyIf services.historyService [start deleteHistory] ++
  onlyIf services.ioThread [start clearHostCache] ++
  (match services.keywordsModelLoaded with
    | some false => [start loadKeywords]
    | some true => [call removeAutoGeneratedKeywords]
    | none => []) ++
  [call suppressClipboardContent] ++
  onlyIf services.tabRestoreService
    [call clearTabRestoreEntries, call deleteLastTabRestoreSession] ++
  onlyIf services.webDataService
    ([call removeOriginURLsModifiedBetween, start removeOriginURLs] ++
      onlyIf services.personalDataManager [call refreshPersonalData]) ++
  onlyIf services.languageHistogram [call clearLanguageHistogram]

def removeFormDataEntries : List RemovalAction :=
  onlyIf services.webDataService
    ([call removeFormElementsAddedBetween, call removeAutofillDataModifiedBetween] ++
      onlyIf services.legacyStrikeDatabase [start clearAllStrikes] ++
      [start removeFormElements] ++
      onlyIf services.personalDataManager [call refreshPersonalData])

/-- What `RemoveImpl` does, from the first sub-task to the last. -/
def removalActions (isOffTheRecord hasSessionService : Bool) (services : RemovalServices)
    (mask : BrowsingDataRemoveMask) : List RemovalAction :=
  onlyIf (mask.isSet removeHistory)
    (onlyIf hasSessionService [start deleteLastSessionFile] ++ [start clearIOSSnapshots]) ++
  onlyIf (mask.isSet removeCookies) [start clearCookies] ++
  onlyIf (!isOffTheRecord)
    (onlyIf (mask.isSet removeHistory) (removeHistoryData services) ++
      onlyIf (mask.isSet removePasswords && services.passwordStore) [start removeLogins] ++
      onlyIf (mask.isSet removeFormData) (removeFormDataEntries services) ++
      onlyIf (mask.isSet removeCache) [start clearHttpCache] ++
      onlyIf (mask.isSet removeCache || mask.isSet removeCookies)
        [call resetZeroSuggestCachedResults] ++
      onlyIf (mask.isSet removeDownloads && services.externalFileRemover)
        [start removeExternalFiles] ++
      onlyIf (mask.isSet BrowsingDataRemoveMask.removeBookmarks)
        [start RemovalSubTask.removeBookmarks] ++
      onlyIf (mask.isSet removeReadingList) [start removeReadingListItems] ++
      onlyIf (mask.isSet removeLastUserAccount) [call clearLastAccount] ++
      [start clearNetworkingHistory] ++
      removeDataFromWKWebsiteDataStore services mask)

end Actions

variable (task : RemovalTask)

namespace RemovalTask

def callbackTask : List RemoverTask :=
  onlyIf task.hasCallback [.callback task.removal]

def postedEvent : List RemoverEvent :=
  onlyIf task.hasCallback [.posted task.removal]

end RemovalTask

namespace BrowsingDataRemoverImpl

abbrev Outcome := BrowsingDataRemoverImpl × List RemoverEvent

def initial (isOffTheRecord hasSessionService : Bool) : BrowsingDataRemoverImpl where
  isOffTheRecord := isOffTheRecord
  hasSessionService := hasSessionService
  hasBrowserState := true
  weakPtrsInvalidated := false
  isRemoving := false
  pendingTasksCount := 0
  removalQueue := []
  nextRemoval := 0
  closures := []
  postedTasks := []

/-! ## Completing -/

variable (remover : BrowsingDataRemoverImpl) (services : RemovalServices)
  (atOnce : RemovalSubTask → List RemovalSubTask)

def setRemoving (isRemoving : Bool) : Checked BrowsingDataRemoverImpl :=
  (dcheck (remover.isRemoving ≠ isRemoving)).map fun _ =>
    { remover with isRemoving := isRemoving }

def postTasks (tasks : List RemoverTask) : BrowsingDataRemoverImpl :=
  { remover with postedTasks := remover.postedTasks ++ tasks }

def notifyRemovalComplete : Checked Outcome :=
  match remover.removalQueue with
  | [] => none
  | task :: rest =>
    let popped : BrowsingDataRemoverImpl := { remover with removalQueue := rest }
    let told := popped.postTasks (task.callbackTask ++ [.notifyBrowsingDataRemoved task.mask])
    let events := .notified task.removal :: task.postedEvent
    if rest.isEmpty then
      (told.setRemoving false).map fun idle => (idle, events)
    else
      some (told.postTasks [.runNextTask], events)

def onTaskComplete : Checked Outcome :=
  (dcheck (0 < remover.pendingTasksCount)).bind fun _ =>
    let counted : BrowsingDataRemoverImpl :=
      { remover with pendingTasksCount := remover.pendingTasksCount - 1 }
    if 0 < counted.pendingTasksCount then
      some (counted, [])
    else
      counted.notifyRemovalComplete

def createPendingTaskCompletionClosure (closure : RemovalClosure) : BrowsingDataRemoverImpl :=
  { remover with
    pendingTasksCount := remover.pendingTasksCount + 1
    closures := remover.closures ++ [closure] }

/-- A closure is run; after a shutdown its weak pointer is null and it does nothing. -/
def runClosure (closure : RemovalClosure) : Checked Outcome :=
  let taken : BrowsingDataRemoverImpl :=
    { remover with closures := remover.closures.erase closure }
  if taken.weakPtrsInvalidated then
    some (taken, [.completed closure])
  else
    taken.onTaskComplete.map fun (after, events) => (after, .completed closure :: events)

/-! ## Removing -/

def completeAtOnce (removal : Nat) (remover : BrowsingDataRemoverImpl)
    (subTask : RemovalSubTask) : Checked Outcome :=
  if ⟨removal, subTask⟩ ∈ remover.closures ∧ subTask ≠ .synchronousClearOperations then
    remover.runClosure ⟨removal, subTask⟩
  else
    some (remover, [])

def runAction (remover : BrowsingDataRemoverImpl) : RemovalAction → Checked Outcome
  | .call call => some (remover, [.called task.removal call])
  | .start subTask =>
    let created := remover.createPendingTaskCompletionClosure ⟨task.removal, subTask⟩
    (replay? (completeAtOnce task.removal) (fun _ _ => True) created (atOnce subTask)).map
      fun (after, events) =>
        (after, .started ⟨task.removal, subTask⟩ task.deleteBegin task.deleteEnd :: events)

def removeImpl (task : RemovalTask) : Checked Outcome :=
  let synchronous : RemovalClosure := ⟨task.removal, .synchronousClearOperations⟩
  let created := remover.createPendingTaskCompletionClosure synchronous
  (replay? (runAction task atOnce) (fun _ _ => True) created
    (removalActions remover.isOffTheRecord remover.hasSessionService services task.mask)).bind
      fun (started, events) =>
        (started.runClosure synchronous).map fun (after, more) =>
          (after, .started synchronous task.deleteBegin task.deleteEnd :: events ++ more)

def runNextTask : Checked Outcome :=
  match remover.removalQueue with
  | [] => none
  | task :: _ =>
    (remover.removeImpl services atOnce task).map fun (after, events) =>
      (after, .removing task.removal :: events)

/-- The assertions at the entry of `Remove`. -/
def MayRemove (timePeriod : TimePeriod) (mask : BrowsingDataRemoveMask) : Prop :=
  remover.hasBrowserState = true ∧ mask ≠ .removeNothing ∧
    (remover.isOffTheRecord = true → timePeriod = .allTime) ∧
    (mask.isSet .removeDownloads = true ∨ mask.isSet .removeBookmarks = true ∨
      mask.isSet .removeReadingList = true → timePeriod = .allTime) ∧
    (mask.isSet .removeCookies = true ∨ mask.isSet .removeVisitedLinks = false)
deriving Decidable

def remove (timePeriod : TimePeriod) (deleteBegin deleteEnd : Nat) (mask : BrowsingDataRemoveMask)
    (hasCallback : Bool) (services : RemovalServices)
    (atOnce : RemovalSubTask → List RemovalSubTask) : Checked Outcome :=
  (dcheck (remover.MayRemove timePeriod mask)).bind fun _ =>
    let task : RemovalTask := ⟨remover.nextRemoval, deleteBegin, deleteEnd, mask, hasCallback⟩
    let queued : BrowsingDataRemoverImpl :=
      { remover with
        removalQueue := remover.removalQueue ++ [task]
        nextRemoval := remover.nextRemoval + 1 }
    if queued.removalQueue.length = 1 then
      (queued.setRemoving true).bind fun removing => removing.runNextTask services atOnce
    else
      some (queued, [])

def shutdown (remover : BrowsingDataRemoverImpl) : Checked Outcome :=
  let invalidated : BrowsingDataRemoverImpl :=
    { remover with weakPtrsInvalidated := true, hasBrowserState := false }
  let idle := if invalidated.isRemoving then invalidated.setRemoving false else some invalidated
  idle.map fun idle =>
    (({ idle with removalQueue := [] } : BrowsingDataRemoverImpl).postTasks
        (remover.removalQueue.flatMap RemovalTask.callbackTask),
      .shutdown :: remover.removalQueue.flatMap RemovalTask.postedEvent)

/-- The first of the posted tasks runs; those bound to the remover by a weak pointer do
nothing after a shutdown. -/
def runPostedTask : Checked Outcome :=
  match remover.postedTasks with
  | [] => some (remover, [])
  | posted :: rest =>
    let taken : BrowsingDataRemoverImpl := { remover with postedTasks := rest }
    match posted with
    | .callback removal => some (taken, [.ranCallback removal])
    | .notifyBrowsingDataRemoved mask =>
      some (taken, onlyIf (!taken.weakPtrsInvalidated) [.browsingDataRemoved mask])
    | .runNextTask =>
      if taken.weakPtrsInvalidated then some (taken, []) else taken.runNextTask services atOnce

inductive Input where
  | remove (timePeriod : TimePeriod) (deleteBegin deleteEnd : Nat)
      (mask : BrowsingDataRemoveMask) (hasCallback : Bool) (services : RemovalServices)
      (atOnce : RemovalSubTask → List RemovalSubTask)
  | complete (closure : RemovalClosure)
  | runPostedTask (services : RemovalServices) (atOnce : RemovalSubTask → List RemovalSubTask)
  | shutdown

def step : Input → Checked Outcome
  | .remove timePeriod deleteBegin deleteEnd mask hasCallback services atOnce =>
    (remover.remove timePeriod deleteBegin deleteEnd mask hasCallback services atOnce).map
      fun (after, events) => (after, .requested remover.nextRemoval hasCallback :: events)
  | .complete closure => remover.runClosure closure
  | .runPostedTask services atOnce => remover.runPostedTask services atOnce
  | .shutdown => remover.shutdown

/-- Callers keep to the assertions of `Remove`, a closure is run at most once, and the
remover is shut down once. -/
def Accepts : Input → Prop
  | .remove timePeriod _ _ mask _ _ _ => remover.MayRemove timePeriod mask
  | .complete closure => closure ∈ remover.closures
  | .runPostedTask _ _ => True
  | .shutdown => remover.hasBrowserState = true

end BrowsingDataRemoverImpl

end ChromiumIos
