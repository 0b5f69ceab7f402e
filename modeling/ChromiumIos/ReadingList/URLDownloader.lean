import ChromiumIos.Lib.Runs

/-!
# The downloader of offline pages

Requests to download and to delete offline versions wait in a queue, and one
task is handled at a time.  The file work of a task is done by a sequenced task
runner, whose replies run on the main thread; distillers and loaders answer on
the main thread too.  The object keeps what the page of the current task has
told in members that later tasks find there.

Only the directories on disk are modelled, not the files in them.  A file task
that saves a page is done in two parts, since other task runners may get in
between: it creates the directory, then it writes the files.
-/

namespace ChromiumIos

open Lib

variable {Url Directory : Type}

/-- What the downloader asks of a URL.  Directories are named by a digest that is
taken to be unique. -/
structure OfflineUrls (Url Directory : Type) where
  offlineURLDirectoryID : Url → Directory
  injective : Function.Injective offlineURLDirectoryID
  isValid : Url → Bool
  schemeIsData : Url → Bool
  schemeIsCryptographic : Url → Bool

inductive TaskType where
  | delete
  | download
deriving DecidableEq, Repr

abbrev Task (Url : Type) := TaskType × Url

instance [DecidableEq Url] : LawfulBEq (Task Url) :=
  inferInstanceAs (LawfulBEq (TaskType × Url))

inductive SuccessState where
  | downloadSuccess
  | downloadExists
  | error
deriving DecidableEq, Repr

inductive OfflineFileType where
  | html
  | pdf
deriving DecidableEq, Repr

inductive OfflinePath (Directory : Type) where
  | empty
  | page (directory : Directory) (fileType : OfflineFileType)
deriving DecidableEq, Repr

def offlinePagePath (urls : OfflineUrls Url Directory) (url : Url) (fileType : OfflineFileType) :
    OfflinePath Directory :=
  .page (urls.offlineURLDirectoryID url) fileType

structure ImageInfo (Url : Type) where
  url : Url
  data : List UInt8
deriving DecidableEq, Repr

/-- What is bound to the completion of a download when it is posted. -/
structure Completion (Url Directory : Type) where
  url : Url
  title : String
  path : OfflinePath Directory
deriving DecidableEq, Repr

/-- The arguments of the completion callback for downloads. -/
structure DownloadReport (Url Directory : Type) where
  url : Url
  distilledUrl : Url
  success : SuccessState
  path : OfflinePath Directory
  size : Int
  title : String
deriving DecidableEq, Repr

/-- The work of the sequenced task runner. -/
inductive Job (Url Directory : Type) where
  | pathExists (url : Url)
  | deleteFile (url : Url)
  | deletePartial (completion : Completion Url Directory)
  | saveDistilledHTML (url : Url) (images : List (ImageInfo Url)) (title : String)
  | writeDistilledHTML (url : Url) (images : List (ImageInfo Url)) (title : String)
  | savePDFFile (originalUrl : Url)
  | movePDFFile (originalUrl : Url)
deriving DecidableEq, Repr

inductive Reply (Url Directory : Type) where
  | downloadURL (url : Url) (offlineUrlExists : Bool)
  | deleteCompletion (url : Url) (success : Bool)
  | downloadCompletion (completion : Completion Url Directory) (success : SuccessState)
  | postDelete (completion : Completion Url Directory) (success : SuccessState)
deriving DecidableEq, Repr

/-- What the file system says: whether a directory could be created or deleted or a file moved,
how many bytes were written for an image or for the page, and the size of a file. -/
structure FileResults (Url : Type) where
  succeeded : Bool
  imageWritten : Url → Int
  htmlWritten : Int
  fileSize : Int

structure DistillerViewer (Url : Type) where
  url : Url
  finished : Bool
deriving DecidableEq, Repr

/-- The calls of the interface. -/
inductive Request (Url : Type) where
  | downloadOfflineURL (url : Url)
  | removeOfflineURL (url : Url)
  | cancelDownloadOfflineURL (url : Url)
deriving DecidableEq, Repr

def Request.url {Url : Type} : Request Url → Url
  | .downloadOfflineURL url | .removeOfflineURL url | .cancelDownloadOfflineURL url => url

/-- What happens in a run: the requests, what becomes of the queue, and the completion
callbacks. -/
inductive DownloaderEffect (Url Directory : Type) where
  | requested (request : Request Url)
  | queued (task : Task Url)
  | cancelled (url : Url)
  | started (task : Task Url)
  | downloadCompletion (report : DownloadReport Url Directory)
  | deleteCompletion (url : Url) (success : Bool)
deriving DecidableEq, Repr

/-- `urlLoader` holds the URL bound to a load that has not completed, `offline` the directories
on disk. -/
structure URLDownloader (Url Directory : Type) where
  tasks : List (Task Url)
  working : Bool
  originalUrl : Url
  distilledUrl : Url
  savedSize : Int
  mimeType : String
  urlLoader : Option Url
  distiller : Option (DistillerViewer Url)
  jobs : List (Job Url Directory)
  replies : List (Reply Url Directory)
  offline : List Directory
deriving DecidableEq, Repr

namespace URLDownloader

abbrev Reaction (Url Directory : Type) :=
  URLDownloader Url Directory × List (DownloaderEffect Url Directory)

def pdfMimeType : String := "application/pdf"

/-- A new downloader.  The constructor leaves the saved size as it is in memory. -/
def initial (emptyUrl : Url) (savedSize : Int) (offline : List Directory) :
    URLDownloader Url Directory where
  tasks := []
  working := false
  originalUrl := emptyUrl
  distilledUrl := emptyUrl
  savedSize := savedSize
  mimeType := ""
  urlLoader := none
  distiller := none
  jobs := []
  replies := []
  offline := offline

variable [DecidableEq Url] [DecidableEq Directory]

/-! ## The queue -/

variable (urls : OfflineUrls Url Directory) (downloader : URLDownloader Url Directory)

def handleNextTask : Checked (Reaction Url Directory) :=
  if downloader.working then some (downloader, [])
  else
    match downloader.tasks with
    | [] => some (downloader, [])
    | (.delete, url) :: rest =>
      some ({ downloader with
          working := true
          tasks := rest
          jobs := downloader.jobs ++ [.deleteFile url] },
        [.started (.delete, url)])
    | (.download, url) :: rest => do
        dcheck (downloader.distiller = none)
        return ({ downloader with
            working := true
            tasks := rest
            jobs := downloader.jobs ++ [.pathExists url] },
          [.started (.download, url)])

def withoutDownloads (url : Url) (tasks : List (Task Url)) : List (Task Url) :=
  tasks.filter fun task => task ≠ (.download, url)

def cancelDownloadOfflineURL (url : Url) : URLDownloader Url Directory :=
  { downloader with tasks := withoutDownloads url downloader.tasks }

def removeOfflineURL (url : Url) : Checked (Reaction Url Directory) := do
  let cancelled := downloader.cancelDownloadOfflineURL url
  let (after, effects) ←
    handleNextTask { cancelled with tasks := cancelled.tasks ++ [(.delete, url)] }
  return (after, .cancelled url :: .queued (.delete, url) :: effects)

def downloadOfflineURL (url : Url) : Checked (Reaction Url Directory) :=
  if (.download, url) ∈ downloader.tasks then some (downloader, [])
  else do
    let (after, effects) ←
      handleNextTask { downloader with tasks := downloader.tasks ++ [(.download, url)] }
    return (after, .queued (.download, url) :: effects)

/-! ## Completions -/

/-- The end of a download: report it, and go on with the next task. -/
def postDelete (completion : Completion Url Directory) (success : SuccessState) :
    Checked (Reaction Url Directory) := do
  let (after, effects) ←
    handleNextTask { downloader with distiller := none, working := false }
  return (after, .downloadCompletion
    { url := completion.url
      distilledUrl := downloader.distilledUrl
      success := success
      path := completion.path
      size := downloader.savedSize
      title := completion.title } :: effects)

def downloadCompletionHandler (completion : Completion Url Directory) (success : SuccessState) :
    Checked (Reaction Url Directory) := do
  dcheck (downloader.working = true)
  if success = .error then
    return ({ downloader with jobs := downloader.jobs ++ [.deletePartial completion] }, [])
  downloader.postDelete completion success

def deleteCompletionHandler (url : Url) (success : Bool) : Checked (Reaction Url Directory) := do
  dcheck (downloader.working = true)
  let (after, effects) ← handleNextTask { downloader with working := false }
  return (after, .deleteCompletion url success :: effects)

/-! ## Downloading -/

def downloadURL (url : Url) (offlineUrlExists : Bool) : Checked (Reaction Url Directory) :=
  if offlineUrlExists then
    downloader.downloadCompletionHandler ⟨url, "", .empty⟩ .downloadExists
  else
    some ({ downloader with
      originalUrl := url
      distilledUrl := url
      savedSize := 0
      distiller := some ⟨url, false⟩ }, [])

def distilledPageRedirectedToURL (pageUrl redirectedUrl : Url) :
    Checked (Reaction Url Directory) := do
  dcheck (downloader.originalUrl = pageUrl)
  return ({ downloader with distilledUrl := redirectedUrl }, [])

def distilledPageHasMimeType (originalUrl : Url) (mimeType : String) :
    Checked (Reaction Url Directory) := do
  dcheck (downloader.originalUrl = originalUrl)
  return ({ downloader with mimeType := mimeType }, [])

def fetchPDFFile : URLDownloader Url Directory :=
  { downloader with
    urlLoader := some (if urls.isValid downloader.distilledUrl then downloader.distilledUrl
      else downloader.originalUrl) }

def distillerCallback (pageUrl : Url) (html : String) (images : List (ImageInfo Url))
    (title : String) : Checked (Reaction Url Directory) :=
  if html = "" then
    if downloader.mimeType = pdfMimeType then some (downloader.fetchPDFFile urls, [])
    else downloader.downloadCompletionHandler ⟨pageUrl, "", .empty⟩ .error
  else
    some ({ downloader with
      jobs := downloader.jobs ++ [.saveDistilledHTML pageUrl images title] }, [])

/-- The load of a PDF file has completed: whether there is a file, and what MIME type the
response had. -/
def onURLLoadComplete (originalUrl : Url) (downloaded : Bool) (responseMimeType : Option String) :
    Checked (Reaction Url Directory) := do
  dcheck (downloader.mimeType = pdfMimeType)
  let completed := { downloader with urlLoader := none }
  if downloaded = false ∨ responseMimeType.getD "" ≠ downloader.mimeType then
    completed.downloadCompletionHandler
      ⟨downloader.originalUrl, "", offlinePagePath urls downloader.originalUrl .pdf⟩ .error
  else
    return ({ completed with jobs := completed.jobs ++ [.savePDFFile originalUrl] }, [])

/-! ## File work -/

structure SavedFiles (Url : Type) where
  images : List Url
  savedSize : Int

def saveImage (results : FileResults Url) (image : ImageInfo Url) (files : SavedFiles Url) :
    Bool × SavedFiles Url :=
  if image.url ∈ files.images then (true, files)
  else if results.imageWritten image.url ≤ 0 then (false, files)
  else (true, ⟨image.url :: files.images, files.savedSize + results.imageWritten image.url⟩)

/-- No mixed content, and the data is valid. -/
def savesImage (urls : OfflineUrls Url Directory) (distilledUrl : Url) (image : ImageInfo Url) :
    Bool :=
  let imageIsMixedContent :=
    urls.schemeIsCryptographic distilledUrl && !urls.schemeIsCryptographic image.url
  !imageIsMixedContent && urls.isValid image.url && image.data ≠ []

/-- What replacing the images of a page does to the files.  The text of an image's URL is looked
for in the page; that of an invalid one is empty, and is found at the same place forever. -/
def saveImages (urls : OfflineUrls Url Directory) (distilledUrl : Url)
    (results : FileResults Url) :
    List (ImageInfo Url) → SavedFiles Url → Option (Bool × SavedFiles Url)
  | [], files => some (true, files)
  | image :: rest, files =>
    if urls.schemeIsData image.url then saveImages urls distilledUrl results rest files
    else
      match
        if savesImage urls distilledUrl image then saveImage results image files
        else (true, files) with
      | (false, saved) => some (false, saved)
      | (true, saved) =>
        if urls.isValid image.url then saveImages urls distilledUrl results rest saved else none

def writeDistilledHTML (distilledUrl : Url) (savedSize : Int) (images : List (ImageInfo Url))
    (results : FileResults Url) : Option (SuccessState × Int) :=
  match saveImages urls distilledUrl results images ⟨[], savedSize⟩ with
  | none => none
  | some (false, files) => some (.error, files.savedSize)
  | some (true, files) =>
    if results.htmlWritten ≤ 0 then some (.error, files.savedSize)
    else some (.downloadSuccess, files.savedSize + results.htmlWritten)

/-- The directories after one has been created, unless it exists or cannot be. -/
def createDirectory (directory : Directory) (succeeded : Bool) (offline : List Directory) :
    Option (List Directory) :=
  if directory ∈ offline then some offline
  else if succeeded then some (offline ++ [directory])
  else none

def deleteDirectory (directory : Directory) (succeeded : Bool) (offline : List Directory) :
    List Directory :=
  if succeeded then offline.filter fun other => other ≠ directory else offline

def htmlCompletion (url : Url) (title : String) : Completion Url Directory :=
  ⟨url, title, offlinePagePath urls url .html⟩

def pdfCompletion (originalUrl : Url) : Completion Url Directory :=
  ⟨originalUrl, "", offlinePagePath urls downloader.originalUrl .pdf⟩

/-- The sequenced task runner works on its first job, which it never leaves if that does not
end. -/
def runJob (results : FileResults Url) : Checked (URLDownloader Url Directory) :=
  match downloader.jobs with
  | [] => none
  | .pathExists url :: rest =>
    some { downloader with
      jobs := rest
      replies := downloader.replies ++
        [.downloadURL url (urls.offlineURLDirectoryID url ∈ downloader.offline)] }
  | .deleteFile url :: rest =>
    some { downloader with
      jobs := rest
      offline := deleteDirectory (urls.offlineURLDirectoryID url) results.succeeded
        downloader.offline
      replies := downloader.replies ++ [.deleteCompletion url results.succeeded] }
  | .deletePartial completion :: rest =>
    some { downloader with
      jobs := rest
      offline := deleteDirectory (urls.offlineURLDirectoryID completion.url) results.succeeded
        downloader.offline
      replies := downloader.replies ++ [.postDelete completion .error] }
  | .saveDistilledHTML url images title :: rest =>
    match createDirectory (urls.offlineURLDirectoryID url) results.succeeded
        downloader.offline with
    | none =>
      some { downloader with
        jobs := rest
        replies := downloader.replies ++
          [.downloadCompletion (htmlCompletion urls url title) .error] }
    | some offline =>
      some { downloader with
        jobs := .writeDistilledHTML url images title :: rest, offline := offline }
  | .writeDistilledHTML url images title :: rest =>
    match writeDistilledHTML urls downloader.distilledUrl downloader.savedSize images results with
    | none => some downloader
    | some (success, savedSize) =>
      some { downloader with
        jobs := rest
        savedSize := savedSize
        replies := downloader.replies ++
          [.downloadCompletion (htmlCompletion urls url title) success] }
  | .savePDFFile originalUrl :: rest =>
    match createDirectory (urls.offlineURLDirectoryID downloader.originalUrl)
        results.succeeded downloader.offline with
    | none =>
      some { downloader with
        jobs := rest
        replies := downloader.replies ++
          [.downloadCompletion (pdfCompletion urls downloader originalUrl) .error] }
    | some offline =>
      some { downloader with jobs := .movePDFFile originalUrl :: rest, offline := offline }
  | .movePDFFile originalUrl :: rest =>
    if results.succeeded then
      some { downloader with
        jobs := rest
        savedSize := downloader.savedSize + results.fileSize
        replies := downloader.replies ++
          [.downloadCompletion (pdfCompletion urls downloader originalUrl)
            .downloadSuccess] }
    else
      some { downloader with
        jobs := rest
        replies := downloader.replies ++
          [.downloadCompletion (pdfCompletion urls downloader originalUrl) .error] }

/-- The main thread runs the first reply of a file task. -/
def runReply : Checked (Reaction Url Directory) :=
  match downloader.replies with
  | [] => none
  | .downloadURL url offlineUrlExists :: rest =>
    { downloader with replies := rest }.downloadURL url offlineUrlExists
  | .deleteCompletion url success :: rest =>
    { downloader with replies := rest }.deleteCompletionHandler url success
  | .downloadCompletion completion success :: rest =>
    { downloader with replies := rest }.downloadCompletionHandler completion success
  | .postDelete completion success :: rest =>
    { downloader with replies := rest }.postDelete completion success

/-! ## Events -/

inductive Input (Url : Type) where
  | request (request : Request Url)
  | hasMimeType (mimeType : String)
  | redirectedToURL (url : Url)
  | distilled (html : String) (images : List (ImageInfo Url)) (title : String)
  | urlLoadComplete (downloaded : Bool) (responseMimeType : Option String)
  | runJob (results : FileResults Url)
  | runReply

/-- A page can tell something, and a distiller can finish, only before it has; loads, jobs and
replies are to come. -/
def Accepts : Input Url → Prop
  | .request _ => True
  | .hasMimeType _ | .redirectedToURL _ | .distilled _ _ _ =>
    ∃ url, downloader.distiller = some ⟨url, false⟩
  | .urlLoadComplete _ _ => downloader.urlLoader ≠ none
  | .runJob _ => downloader.jobs ≠ []
  | .runReply => downloader.replies ≠ []

instance (input : Input Url) : Decidable (Accepts downloader input) :=
  match input with
  | .request _ => isTrue trivial
  | .hasMimeType _ | .redirectedToURL _ | .distilled _ _ _ =>
    match viewer : downloader.distiller with
    | some ⟨url, false⟩ => isTrue ⟨url, viewer⟩
    | some ⟨_, true⟩ | none => isFalse fun ⟨_, pending⟩ => by cases viewer.symm.trans pending
  | .urlLoadComplete _ _ => inferInstanceAs (Decidable (_ ≠ none))
  | .runJob _ | .runReply => inferInstanceAs (Decidable (_ ≠ []))

def handleRequest : Request Url → Checked (Reaction Url Directory)
  | .downloadOfflineURL url => downloader.downloadOfflineURL url
  | .removeOfflineURL url => downloader.removeOfflineURL url
  | .cancelDownloadOfflineURL url =>
    some (downloader.cancelDownloadOfflineURL url, [.cancelled url])

def step : Input Url → Checked (Reaction Url Directory)
  | .request request => do
      let (after, effects) ← downloader.handleRequest request
      return (after, .requested request :: effects)
  | .hasMimeType mimeType => do
      let viewer ← downloader.distiller
      downloader.distilledPageHasMimeType viewer.url mimeType
  | .redirectedToURL url => do
      let viewer ← downloader.distiller
      downloader.distilledPageRedirectedToURL viewer.url url
  | .distilled html images title => do
      let viewer ← downloader.distiller
      { downloader with distiller := some { viewer with finished := true } }.distillerCallback
        urls viewer.url html images title
  | .urlLoadComplete downloaded responseMimeType => do
      let originalUrl ← downloader.urlLoader
      downloader.onURLLoadComplete urls originalUrl downloaded responseMimeType
  | .runJob results => do
      let after ← downloader.runJob urls results
      return (after, [])
  | .runReply => downloader.runReply

end URLDownloader

end ChromiumIos
