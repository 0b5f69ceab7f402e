import ChromiumIos.ReadingList.DownloadReports

/-!
# The download service of the reading list

The service watches the model of the reading list.  It schedules a download for
each entry that needs one, asks the downloader for it when the delay of the entry
is over, and writes into the model how the download ended.  When the model is
loaded it also has the directories deleted that belong to no processed entry;
the files are deleted by a task runner of their own, one directory after the
other, while everything else goes on.

The model itself is only known by what it stores.  The titles of entries, the
times and the histograms are left out.
-/

namespace ChromiumIos

open Lib

variable {Url Directory : Type}

inductive DistillationState where
  | waiting
  | processing
  | processed
  | willRetry
  | distillationError
deriving DecidableEq, Repr

inductive ConnectionType where
  | connectionNone
  | connectionWifi
  | connectionOther
deriving DecidableEq, Repr

structure DistilledInfo (Url Directory : Type) where
  path : OfflinePath Directory
  distilledUrl : Url
  size : Int
deriving DecidableEq, Repr

structure ReadingListEntry (Url Directory : Type) where
  url : Url
  distilledState : DistillationState
  distilledInfo : Option (DistilledInfo Url Directory)
  isRead : Bool
  failedDownloadCounter : Int
deriving DecidableEq, Repr

/-- The clean-up of the offline root: it deletes what is not to be kept, then its reply
schedules the entries that were not processed. -/
inductive CleanUp (Url Directory : Type) where
  | cleaning (processedDirectories : List Directory) (unprocessedEntries : List Url)
  | cleaned (unprocessedEntries : List Url)
deriving DecidableEq, Repr

def CleanUp.isCleaning : CleanUp Url Directory → Bool
  | .cleaning _ _ => true
  | .cleaned _ => false

/-- `entries` are those of the model, `delayedTasks` the URLs for which an entry is to be
downloaded when its delay is over. -/
structure ReadingListDownloadService (Url Directory : Type) where
  urlDownloader : URLDownloader Url Directory
  loaded : Bool
  entries : List (ReadingListEntry Url Directory)
  urlToDownloadCellular : List Url
  urlToDownloadWifi : List Url
  hadConnection : Bool
  delayedTasks : List Url
  cleanUp : Option (CleanUp Url Directory)
deriving DecidableEq, Repr

inductive ServiceOutput (Url Directory : Type) where
  | removed (url : Url)
  | cleanedUp (directory : Directory)
deriving DecidableEq, Repr

namespace ReadingListDownloadService

def initial (emptyUrl : Url) (savedSize : Int) (offline : List Directory)
    (hadConnection : Bool) : ReadingListDownloadService Url Directory where
  urlDownloader := .initial emptyUrl savedSize offline
  loaded := false
  entries := []
  urlToDownloadCellular := []
  urlToDownloadWifi := []
  hadConnection := hadConnection
  delayedTasks := []
  cleanUp := none

/-- How often a download must fail before it is only tried on a wireless network. -/
def numberOfFailsBeforeWifiOnly : Int := 5

def numberOfFailsBeforeStop : Int := 7

def NeedsNoDownload (entry : ReadingListEntry Url Directory) : Prop :=
  entry.distilledState = .distillationError ∨ entry.distilledState = .processed ∨
    entry.isRead = true
deriving Decidable

variable [DecidableEq Url] [DecidableEq Directory]

/-! ## The model -/

variable (urls : OfflineUrls Url Directory) (service : ReadingListDownloadService Url Directory)
  (url : Url)

def getEntryByURL : Option (ReadingListEntry Url Directory) :=
  service.entries.find? fun entry => entry.url = url

def distilledState (service : ReadingListDownloadService Url Directory) (url : Url) :
    Option DistillationState :=
  (service.getEntryByURL url).map (·.distilledState)

def updateEntry (update : ReadingListEntry Url Directory → ReadingListEntry Url Directory) :
    ReadingListDownloadService Url Directory :=
  { service with
    entries := service.entries.map fun entry => if entry.url = url then update entry else entry }

def setEntryDistilledState (distilledState : DistillationState) :
    ReadingListDownloadService Url Directory :=
  service.updateEntry url fun entry => { entry with distilledState }

def setEntryDistilledInfo (distilledInfo : DistilledInfo Url Directory) :
    ReadingListDownloadService Url Directory :=
  service.updateEntry url fun entry =>
    { entry with distilledState := .processed, distilledInfo := some distilledInfo }

def addEntry (isRead : Bool) : ReadingListDownloadService Url Directory :=
  match service.getEntryByURL url with
  | some _ => service
  | none => { service with entries := service.entries ++ [⟨url, .waiting, none, isRead, 0⟩] }

def removeEntry : ReadingListDownloadService Url Directory :=
  { service with entries := service.entries.filter fun entry => entry.url ≠ url }

/-! ## Downloads -/

def request (urls : OfflineUrls Url Directory)
    (service : ReadingListDownloadService Url Directory) (request : Request Url) :
    Checked (ReadingListDownloadService Url Directory) := do
  let (urlDownloader, _) ← URLDownloader.step urls service.urlDownloader (.request request)
  return { service with urlDownloader }

def scheduleDownloadEntry : Checked (ReadingListDownloadService Url Directory) := do
  dcheck (service.loaded = true)
  match service.getEntryByURL url with
  | none => return service
  | some entry =>
    if NeedsNoDownload entry then return service
    else return { service with delayedTasks := service.delayedTasks ++ [url] }

def scheduleDownloadEntries (entries : List Url) :
    Checked (ReadingListDownloadService Url Directory) :=
  entries.foldlM scheduleDownloadEntry service

def startDownload : Checked (ReadingListDownloadService Url Directory) :=
  (service.setEntryDistilledState url .processing).request urls (.downloadOfflineURL url)

def downloadEntry (connection : ConnectionType) :
    Checked (ReadingListDownloadService Url Directory) := do
  dcheck (service.loaded = true)
  match service.getEntryByURL url with
  | none => return service
  | some entry =>
    if NeedsNoDownload entry then return service
    else if connection = .connectionNone then
      -- There is no connection: the URL is saved for one.
      return { service with
        urlToDownloadCellular :=
          if entry.failedDownloadCounter < numberOfFailsBeforeWifiOnly then
            service.urlToDownloadCellular ++ [entry.url]
          else service.urlToDownloadCellular
        urlToDownloadWifi :=
          if entry.failedDownloadCounter < numberOfFailsBeforeStop then
            service.urlToDownloadWifi ++ [entry.url]
          else service.urlToDownloadWifi }
    else if entry.failedDownloadCounter < numberOfFailsBeforeWifiOnly then
      service.startDownload urls entry.url
    else if entry.failedDownloadCounter < numberOfFailsBeforeStop then
      if connection = .connectionWifi then service.startDownload urls entry.url
      else return { service with urlToDownloadWifi := service.urlToDownloadWifi ++ [entry.url] }
    else return service

def processNewEntry : Checked (ReadingListDownloadService Url Directory) :=
  match service.getEntryByURL url with
  | none => service.request urls (.cancelDownloadOfflineURL url)
  | some entry =>
    if entry.isRead then service.request urls (.cancelDownloadOfflineURL url)
    else service.scheduleDownloadEntry url

def removeDownloadedEntry : Checked (ReadingListDownloadService Url Directory) := do
  dcheck (service.loaded = true)
  service.request urls (.removeOfflineURL url)

/-- A report without a path is one of a failure, whatever it says. -/
def realSuccessValue (report : DownloadReport Url Directory) : SuccessState :=
  if report.path = .empty then .error else report.success

def onDownloadEnd (report : DownloadReport Url Directory) :
    Checked (ReadingListDownloadService Url Directory) := do
  dcheck (service.loaded = true)
  match realSuccessValue report with
  | .downloadSuccess | .downloadExists =>
    return service.setEntryDistilledInfo report.url
      ⟨report.path, report.distilledUrl, report.size⟩
  | .error =>
    match service.getEntryByURL report.url with
    | some entry =>
      if entry.failedDownloadCounter + 1 < numberOfFailsBeforeStop then
        (service.setEntryDistilledState report.url .willRetry).scheduleDownloadEntry report.url
      else return service.setEntryDistilledState report.url .distillationError
    | none => return service.setEntryDistilledState report.url .distillationError

/-- Nothing is to be updated when a deletion ends. -/
def onDownloaderEffect :
    DownloaderEffect Url Directory → Checked (ReadingListDownloadService Url Directory)
  | .downloadCompletion report => service.onDownloadEnd report
  | _ => some service

/-- What was saved for any connection is scheduled when there is one again. -/
def reconnect : Checked (ReadingListDownloadService Url Directory) :=
  if service.hadConnection then some service
  else { service with hadConnection := true }.scheduleDownloadEntries service.urlToDownloadCellular

def onConnectionChanged (connection : ConnectionType) :
    Checked (ReadingListDownloadService Url Directory) :=
  if connection = .connectionNone then some { service with hadConnection := false }
  else do
    let scheduled ← service.reconnect
    if connection = .connectionWifi then
      scheduled.scheduleDownloadEntries scheduled.urlToDownloadWifi
    else return scheduled

/-! ## Start-up -/

omit [DecidableEq Url] [DecidableEq Directory] in
def processedDirectories : List Directory :=
  (service.entries.filter fun entry => entry.distilledState = .processed).map
    fun entry => urls.offlineURLDirectoryID entry.url

omit [DecidableEq Url] [DecidableEq Directory] in
def unprocessedEntries : List Url :=
  (service.entries.filter fun entry =>
    entry.distilledState ∈ [.waiting, .processing, .willRetry]).map (·.url)

omit [DecidableEq Url] [DecidableEq Directory] in
def syncWithModel : Checked (ReadingListDownloadService Url Directory) := do
  dcheck (service.loaded = true)
  return { service with
    cleanUp := some (.cleaning (service.processedDirectories urls) service.unprocessedEntries) }

/-- The clean-up comes to a directory: it is deleted unless it is to be kept. -/
def cleanUpFile (directory : Directory) (deleted : Bool) :
    Checked (ReadingListDownloadService Url Directory × List (ServiceOutput Url Directory)) :=
  match service.cleanUp with
  | some (.cleaning processedDirectories _) =>
    if directory ∈ processedDirectories then some (service, [])
    else
      some ({ service with
        urlDownloader := { service.urlDownloader with
          offline := URLDownloader.deleteDirectory directory deleted
            service.urlDownloader.offline } }, [.cleanedUp directory])
  | _ => none

/-! ## Events -/

/-- `failedDownloads` is a change of the counter that the model keeps, `cleanUpFile` says whether
the file system could delete the directory. -/
inductive ServiceInput (Url Directory : Type) where
  | modelLoaded (entries : List (ReadingListEntry Url Directory))
  | didAddEntry (url : Url) (isRead : Bool)
  | didMoveEntry (url : Url) (isRead : Bool)
  | willRemoveEntry (url : Url)
  | failedDownloads (url : Url) (failedDownloadCounter : Int)
  | runDelayedTask (url : Url) (connection : ConnectionType)
  | connectionChanged (connection : ConnectionType)
  | cleanUpFile (directory : Directory) (deleted : Bool)
  | cleanUpEnds
  | cleanUpReply
  | downloader (input : URLDownloader.Input Url)

/-- The model is loaded once, and notifies afterwards; the other inputs are of something that is
to come.  The downloader takes its requests from the service only. -/
def Accepts (service : ReadingListDownloadService Url Directory) :
    ServiceInput Url Directory → Prop
  | .modelLoaded entries => service.loaded = false ∧ (entries.map (·.url)).Nodup
  | .didAddEntry _ _ | .didMoveEntry _ _ | .failedDownloads _ _ => service.loaded = true
  | .willRemoveEntry url => service.loaded = true ∧ (service.getEntryByURL url).isSome
  | .runDelayedTask url _ => url ∈ service.delayedTasks
  | .connectionChanged _ => True
  | .cleanUpFile directory _ =>
    service.cleanUp.any CleanUp.isCleaning ∧ directory ∈ service.urlDownloader.offline
  | .cleanUpEnds => service.cleanUp.any CleanUp.isCleaning
  | .cleanUpReply => service.cleanUp.any fun cleanUp => !cleanUp.isCleaning
  | .downloader input => input.isOwn ∧ service.urlDownloader.Accepts input

instance (input : ServiceInput Url Directory) : Decidable (Accepts service input) :=
  match input with
  | .modelLoaded _ | .willRemoveEntry _ | .cleanUpFile _ _ => inferInstanceAs (Decidable (_ ∧ _))
  | .didAddEntry _ _ | .didMoveEntry _ _ | .failedDownloads _ _ =>
    inferInstanceAs (Decidable (_ = true))
  | .runDelayedTask _ _ => inferInstanceAs (Decidable (_ ∈ _))
  | .connectionChanged _ => isTrue trivial
  | .cleanUpEnds | .cleanUpReply => inferInstanceAs (Decidable (_ = true))
  | .downloader input =>
    inferInstanceAs (Decidable (input.isOwn ∧ service.urlDownloader.Accepts input))

def step (urls : OfflineUrls Url Directory) (service : ReadingListDownloadService Url Directory) :
    ServiceInput Url Directory →
      Checked (ReadingListDownloadService Url Directory × List (ServiceOutput Url Directory))
  | .modelLoaded entries =>
    ({ service with loaded := true, entries }.syncWithModel urls).map (·, [])
  | .didAddEntry url isRead =>
    ((service.addEntry url isRead).processNewEntry urls url).map (·, [])
  | .didMoveEntry url isRead =>
    ((service.updateEntry url fun entry => { entry with isRead }).processNewEntry urls url).map
      (·, [])
  | .willRemoveEntry url => do
      dcheck (service.getEntryByURL url).isSome
      let after ← service.removeDownloadedEntry urls url
      return (after.removeEntry url, [.removed url])
  | .failedDownloads url failedDownloadCounter =>
    some (service.updateEntry url fun entry => { entry with failedDownloadCounter }, [])
  | .runDelayedTask url connection =>
    ({ service with delayedTasks := service.delayedTasks.erase url }.downloadEntry urls url
      connection).map (·, [])
  | .connectionChanged connection => (service.onConnectionChanged connection).map (·, [])
  | .cleanUpFile directory deleted => service.cleanUpFile directory deleted
  | .cleanUpEnds =>
    match service.cleanUp with
    | some (.cleaning _ unprocessedEntries) =>
      some ({ service with cleanUp := some (.cleaned unprocessedEntries) }, [])
    | _ => none
  | .cleanUpReply =>
    match service.cleanUp with
    | some (.cleaned unprocessedEntries) =>
      ({ service with cleanUp := none }.scheduleDownloadEntries unprocessedEntries).map (·, [])
    | _ => none
  | .downloader input => do
      let (urlDownloader, effects) ← URLDownloader.step urls service.urlDownloader input
      let after ← effects.foldlM onDownloaderEffect { service with urlDownloader }
      return (after, [])

end ReadingListDownloadService

end ChromiumIos
