import ChromiumIos.ReadingList.URLDownloader

/-!
# The stages of a task

At every point of a run either nothing is in progress, and then nothing waits
anywhere, or one task is, and it waits for one thing only: a job, a reply, its
distiller or its loader.  `Moves` says once what every input can do at every
stage.
-/

namespace ChromiumIos

open Lib

namespace URLDownloader

variable {Url Directory : Type}

/-- What is saved for a download: the page its distiller gave, or the PDF file that was
fetched for the bound URL. -/
inductive Save (Url : Type) where
  | html (images : List (ImageInfo Url)) (title : String)
  | pdf (originalUrl : Url)

namespace Save

def savingJob (url : Url) : Save Url → Job Url Directory
  | html images title => .saveDistilledHTML url images title
  | pdf originalUrl => .savePDFFile originalUrl

def writingJob (url : Url) : Save Url → Job Url Directory
  | html images title => .writeDistilledHTML url images title
  | pdf originalUrl => .movePDFFile originalUrl

end Save

/-- What the task in progress waits for. -/
inductive Stage (Url Directory : Type) where
  | idle
  | deleting (url : Url)
  | deleted (url : Url) (success : Bool)
  | checking (url : Url)
  | checked (url : Url) (offlineUrlExists : Bool)
  | distilling (url : Url)
  | loading (url originalUrl : Url)
  | saving (url : Url) (save : Save Url)
  | writing (url : Url) (save : Save Url)
  | saved (url : Url) (completion : Completion Url Directory) (success : SuccessState)
  | clearing (url : Url) (completion : Completion Url Directory)
  | cleared (url : Url) (completion : Completion Url Directory)

namespace Stage

def task : Stage Url Directory → Option (Task Url)
  | idle => none
  | deleting url | deleted url _ => some (.delete, url)
  | checking url | checked url _ | distilling url | loading url _ | saving url _ | writing url _
  | saved url _ _ | clearing url _ | cleared url _ => some (.download, url)

def download (stage : Stage Url Directory) : Option Url :=
  match stage.task with
  | some (.download, url) => some url
  | _ => none

def jobs : Stage Url Directory → List (Job Url Directory)
  | deleting url => [.deleteFile url]
  | checking url => [.pathExists url]
  | saving url save => [save.savingJob url]
  | writing url save => [save.writingJob url]
  | clearing _ completion => [.deletePartial completion]
  | _ => []

def replies : Stage Url Directory → List (Reply Url Directory)
  | deleted url success => [.deleteCompletion url success]
  | checked url offlineUrlExists => [.downloadURL url offlineUrlExists]
  | saved _ completion success => [.downloadCompletion completion success]
  | cleared _ completion => [.postDelete completion .error]
  | _ => []

def urlLoader : Stage Url Directory → Option Url
  | loading _ originalUrl => some originalUrl
  | _ => none

def distiller : Stage Url Directory → Option (DistillerViewer Url)
  | distilling url => some ⟨url, false⟩
  | loading url _ | saving url _ | writing url _ | saved url _ _ | clearing url _ | cleared url _ =>
    some ⟨url, true⟩
  | _ => none

def beginning : Task Url → Stage Url Directory
  | (.delete, url) => deleting url
  | (.download, url) => checking url

@[simp]
theorem task_beginning (task : Task Url) :
    (beginning task : Stage Url Directory).task = some task := by
  rcases task with ⟨type, url⟩
  cases type <;> rfl

end Stage

/-- The downloader waits for what the stage says and for nothing else. -/
structure Waits (stage : Stage Url Directory) (downloader : URLDownloader Url Directory) :
    Prop where
  working : downloader.working = stage.task.isSome
  jobs : downloader.jobs = stage.jobs
  replies : downloader.replies = stage.replies
  urlLoader : downloader.urlLoader = stage.urlLoader
  distiller : downloader.distiller = stage.distiller
  originalUrl : ∀ {viewer}, stage.distiller = some viewer → downloader.originalUrl = viewer.url
  mimeType : stage.urlLoader.isSome → downloader.mimeType = pdfMimeType

/-- Between two inputs no task is queued while none is in progress. -/
structure At (stage : Stage Url Directory) (downloader : URLDownloader Url Directory) : Prop
    extends Waits stage downloader where
  tasks : stage.task = none → downloader.tasks = []

theorem at_initial (emptyUrl : Url) (savedSize : Int) (offline : List Directory) :
    At .idle (initial emptyUrl savedSize offline) where
  working := rfl
  jobs := rfl
  replies := rfl
  urlLoader := rfl
  distiller := rfl
  originalUrl := nofun
  mimeType := nofun
  tasks _ := rfl

/-! ## What the inputs do -/

def begun (downloader : URLDownloader Url Directory) (task : Task Url)
    (rest : List (Task Url)) : URLDownloader Url Directory :=
  { downloader with working := true, tasks := rest, jobs := (Stage.beginning task).jobs }

/-- Handling the next task: nothing happens while one is in progress or none is queued. -/
inductive Starts : Stage Url Directory → URLDownloader Url Directory → Stage Url Directory →
    URLDownloader Url Directory → List (DownloaderEffect Url Directory) → Prop where
  | busy {stage : Stage Url Directory} {downloader : URLDownloader Url Directory}
      (inProgress : stage.task ≠ none) : Starts stage downloader stage downloader []
  | empty {downloader : URLDownloader Url Directory} (none : downloader.tasks = []) :
      Starts .idle downloader .idle downloader []
  | next {downloader : URLDownloader Url Directory} {task : Task Url} {rest : List (Task Url)}
      (queue : downloader.tasks = task :: rest) :
      Starts .idle downloader (.beginning task) (downloader.begun task rest) [.started task]

/-- The downloader when the task in progress has reported. -/
def finished (downloader : URLDownloader Url Directory) : URLDownloader Url Directory :=
  { downloader with replies := [], distiller := none, working := false }

def report (downloader : URLDownloader Url Directory) (completion : Completion Url Directory)
    (success : SuccessState) : DownloadReport Url Directory where
  url := completion.url
  distilledUrl := downloader.distilledUrl
  success := success
  path := completion.path
  size := downloader.savedSize
  title := completion.title

variable {originalUrl url : Url}

section Starts

variable {stage stage' : Stage Url Directory} {downloader next : URLDownloader Url Directory}
variable {effects : List (DownloaderEffect Url Directory)}

theorem Waits.finished (waits : Waits stage downloader) (jobs : stage.jobs = [])
    (urlLoader : stage.urlLoader = none) : Waits .idle downloader.finished where
  working := rfl
  jobs := waits.jobs.trans jobs
  replies := rfl
  urlLoader := waits.urlLoader.trans urlLoader
  distiller := rfl
  originalUrl := nofun
  mimeType := nofun

theorem Waits.withTasks (waits : Waits stage downloader) (tasks : List (Task Url)) :
    Waits stage { downloader with tasks } :=
  ⟨waits.working, waits.jobs, waits.replies, waits.urlLoader, waits.distiller, waits.originalUrl,
    waits.mimeType⟩

theorem Waits.begun (waits : Waits .idle downloader) (task : Task Url) (rest : List (Task Url)) :
    At (.beginning task) (downloader.begun task rest) := by
  rcases task with ⟨type, url⟩
  cases type with
  | delete | download =>
    exact ⟨⟨rfl, rfl, waits.replies, waits.urlLoader, waits.distiller, nofun, nofun⟩, nofun⟩

/-- After the next task has been handled none is queued while none is in progress. -/
theorem Starts.at (starts : Starts stage downloader stage' next effects)
    (waits : Waits stage downloader) : At stage' next := by
  cases starts with
  | busy inProgress => exact ⟨waits, fun none => absurd none inProgress⟩
  | empty none => exact ⟨waits, fun _ => none⟩
  | next _ => exact waits.begun _ _

theorem Starts.deterministic {stage₁ stage₂ : Stage Url Directory}
    {next₁ next₂ : URLDownloader Url Directory} {effects₁ effects₂ : List _}
    (starts : Starts stage downloader stage₁ next₁ effects₁)
    (others : Starts stage downloader stage₂ next₂ effects₂) :
    stage₁ = stage₂ ∧ next₁ = next₂ ∧ effects₁ = effects₂ := by
  cases starts with
  | busy inProgress =>
    cases others with
    | busy | empty none => exact ⟨rfl, rfl, rfl⟩
    | next _ => exact absurd rfl inProgress
  | empty _ =>
    cases others <;> grind
  | next queue =>
    cases others with
    | busy inProgress => exact absurd rfl inProgress
    | empty none => cases none.symm.trans queue
    | next _ =>
      grind

theorem Waits.originalUrl_of_distilling (waits : Waits (.distilling url) downloader) :
    downloader.originalUrl = url := by
  have running : (Stage.distilling url : Stage Url Directory).distiller = some ⟨url, false⟩ := rfl
  exact waits.originalUrl running

/-- Only a running distiller can tell something. -/
theorem Stage.eq_distilling (running : stage.distiller = some ⟨url, false⟩) :
    stage = .distilling url := by
  cases stage with
  | distilling _ =>
    cases running
    rfl
  | _ => cases running

theorem Stage.eq_loading (loader : stage.urlLoader = some originalUrl) :
    ∃ url, stage = .loading url originalUrl := by
  cases stage with
  | loading url _ =>
    cases loader
    exact ⟨url, rfl⟩
  | _ => cases loader

end Starts

def reports (effects : List (DownloaderEffect Url Directory)) :
    List (DownloadReport Url Directory) :=
  effects.filterMap fun effect =>
    match effect with
    | .downloadCompletion report => some report
    | _ => none

theorem reports_append (effects more : List (DownloaderEffect Url Directory)) :
    reports (effects ++ more) = reports effects ++ reports more :=
  List.filterMap_append

variable [DecidableEq Url] [DecidableEq Directory]

def Save.completion (urls : OfflineUrls Url Directory) (url : Url) :
    Save Url → Completion Url Directory
  | .html _ title => htmlCompletion urls url title
  | .pdf originalUrl => ⟨originalUrl, "", offlinePagePath urls url .pdf⟩

def Save.written (urls : OfflineUrls Url Directory) (distilledUrl : Url) (savedSize : Int)
    (results : FileResults Url) : Save Url → Option (SuccessState × Int)
  | .html images _ => writeDistilledHTML urls distilledUrl savedSize images results
  | .pdf _ =>
    if results.succeeded then some (.downloadSuccess, savedSize + results.fileSize)
    else some (.error, savedSize)

/-- What a request does to the queue, before the next task is handled. -/
def requestTasks (tasks : List (Task Url)) : Request Url → List (Task Url)
  | .downloadOfflineURL url =>
    if (.download, url) ∈ tasks then tasks else tasks ++ [(.download, url)]
  | .removeOfflineURL url => withoutDownloads url tasks ++ [(.delete, url)]
  | .cancelDownloadOfflineURL url => withoutDownloads url tasks

def requestEffects (tasks : List (Task Url)) :
    Request Url → List (DownloaderEffect Url Directory)
  | .downloadOfflineURL url =>
    if (.download, url) ∈ tasks then [] else [.queued (.download, url)]
  | .removeOfflineURL url => [.cancelled url, .queued (.delete, url)]
  | .cancelDownloadOfflineURL url => [.cancelled url]

/-- A request leaves the tasks for other URLs as they are. -/
theorem mem_requestTasks_of_ne {tasks : List (Task Url)} {request : Request Url}
    {task : Task Url} (other : task.2 ≠ request.url) :
    task ∈ requestTasks tasks request ↔ task ∈ tasks := by
  have different : ∀ type, task ≠ (type, request.url) := by
    rintro type rfl
    exact other rfl
  have kept : task ∈ withoutDownloads request.url tasks ↔ task ∈ tasks := by
    simp [withoutDownloads, different]
  have unpushed : ∀ {type} {queue : List (Task Url)},
      task ∈ queue ++ [(type, request.url)] ↔ task ∈ queue := by
    grind
  cases request with
  | downloadOfflineURL _ =>
    unfold requestTasks
    simp only
    split
    · exact Iff.rfl
    · exact unpushed
  | removeOfflineURL _ => exact unpushed.trans kept
  | cancelDownloadOfflineURL _ => exact kept

/-! ## Directories -/

section Directories

variable {Directory : Type} [DecidableEq Directory]
variable {directory : Directory}
variable {offline : List Directory} {succeeded : Bool} {other : Directory}

theorem notMem_deleteDirectory (absent : directory ∉ offline) :
    directory ∉ deleteDirectory other succeeded offline := by
  grind [deleteDirectory]

theorem notMem_createDirectory {after : List Directory} (absent : directory ∉ offline)
    (different : directory ≠ other)
    (created : createDirectory other succeeded offline = some after) : directory ∉ after := by
  grind [createDirectory]

theorem notMem_deleteDirectory_self (offline : List Directory) :
    directory ∉ deleteDirectory directory true offline := by
  simp [deleteDirectory]

end Directories

/-- What an input does at a stage, and what it reports. -/
inductive Moves (urls : OfflineUrls Url Directory) : Stage Url Directory →
    URLDownloader Url Directory → Input Url → Stage Url Directory →
    URLDownloader Url Directory → List (DownloaderEffect Url Directory) → Prop where
  | request {stage stage' : Stage Url Directory} {downloader next : URLDownloader Url Directory}
      {effects : List (DownloaderEffect Url Directory)} (request : Request Url)
      (starts : Starts stage { downloader with tasks := requestTasks downloader.tasks request }
        stage' next effects) :
      Moves urls stage downloader (.request request) stage' next
        (.requested request :: requestEffects downloader.tasks request ++ effects)
  | delete {downloader : URLDownloader Url Directory} (url : Url) (results : FileResults Url) :
      Moves urls (.deleting url) downloader (.runJob results) (.deleted url results.succeeded)
        { downloader with
          jobs := []
          offline := deleteDirectory (urls.offlineURLDirectoryID url) results.succeeded
            downloader.offline
          replies := [.deleteCompletion url results.succeeded] } []
  | deleted {stage' : Stage Url Directory} {downloader next : URLDownloader Url Directory}
      {effects : List (DownloaderEffect Url Directory)} (url : Url) (success : Bool)
      (starts : Starts .idle downloader.finished stage' next effects) :
      Moves urls (.deleted url success) downloader .runReply stage' next
        (.deleteCompletion url success :: effects)
  | check {downloader : URLDownloader Url Directory} (url : Url) (results : FileResults Url) :
      Moves urls (.checking url) downloader (.runJob results)
        (.checked url (urls.offlineURLDirectoryID url ∈ downloader.offline))
        { downloader with
          jobs := []
          replies := [.downloadURL url (urls.offlineURLDirectoryID url ∈ downloader.offline)] }
        []
  | found {stage' : Stage Url Directory} {downloader next : URLDownloader Url Directory}
      {effects : List (DownloaderEffect Url Directory)} (url : Url)
      (starts : Starts .idle downloader.finished stage' next effects) :
      Moves urls (.checked url true) downloader .runReply stage' next
        (.downloadCompletion (downloader.report ⟨url, "", .empty⟩ .downloadExists) :: effects)
  | distill {downloader : URLDownloader Url Directory} (url : Url) :
      Moves urls (.checked url false) downloader .runReply (.distilling url)
        { downloader with
          replies := []
          originalUrl := url
          distilledUrl := url
          savedSize := 0
          distiller := some ⟨url, false⟩ } []
  | hasMimeType {downloader : URLDownloader Url Directory} (url : Url) (mimeType : String) :
      Moves urls (.distilling url) downloader (.hasMimeType mimeType) (.distilling url)
        { downloader with mimeType := mimeType } []
  | redirectedToURL {downloader : URLDownloader Url Directory} (url redirectedUrl : Url) :
      Moves urls (.distilling url) downloader (.redirectedToURL redirectedUrl) (.distilling url)
        { downloader with distilledUrl := redirectedUrl } []
  | distilled {downloader : URLDownloader Url Directory} (url : Url) {html : String}
      (images : List (ImageInfo Url)) (title : String) (some_ : html ≠ "") :
      Moves urls (.distilling url) downloader (.distilled html images title)
        (.saving url (.html images title))
        { downloader with
          distiller := some ⟨url, true⟩
          jobs := [.saveDistilledHTML url images title] } []
  | fetch {downloader : URLDownloader Url Directory} (url : Url) (images : List (ImageInfo Url))
      (title : String) (isPDF : downloader.mimeType = pdfMimeType) :
      Moves urls (.distilling url) downloader (.distilled "" images title)
        (.loading url (if urls.isValid downloader.distilledUrl then downloader.distilledUrl
          else url))
        { downloader with
          distiller := some ⟨url, true⟩
          urlLoader := some (if urls.isValid downloader.distilledUrl then downloader.distilledUrl
            else url) } []
  | notDistilled {downloader : URLDownloader Url Directory} (url : Url)
      (images : List (ImageInfo Url)) (title : String)
      (notPDF : downloader.mimeType ≠ pdfMimeType) :
      Moves urls (.distilling url) downloader (.distilled "" images title)
        (.clearing url ⟨url, "", .empty⟩)
        { downloader with
          distiller := some ⟨url, true⟩, jobs := [.deletePartial ⟨url, "", .empty⟩] } []
  | notLoaded {downloader : URLDownloader Url Directory} (url originalUrl : Url)
      (downloaded : Bool) (responseMimeType : Option String)
      (failed : downloaded = false ∨ responseMimeType.getD "" ≠ downloader.mimeType) :
      Moves urls (.loading url originalUrl) downloader
        (.urlLoadComplete downloaded responseMimeType)
        (.clearing url ⟨url, "", offlinePagePath urls url .pdf⟩)
        { downloader with
          urlLoader := none
          jobs := [.deletePartial ⟨url, "", offlinePagePath urls url .pdf⟩] } []
  | loaded {downloader : URLDownloader Url Directory} (url originalUrl : Url)
      (responseMimeType : Option String)
      (samePDF : responseMimeType.getD "" = downloader.mimeType) :
      Moves urls (.loading url originalUrl) downloader (.urlLoadComplete true responseMimeType)
        (.saving url (.pdf originalUrl))
        { downloader with urlLoader := none, jobs := [.savePDFFile originalUrl] } []
  | notCreated {downloader : URLDownloader Url Directory} (url : Url) (save : Save Url)
      (results : FileResults Url)
      (failed : createDirectory (urls.offlineURLDirectoryID url) results.succeeded
        downloader.offline = none) :
      Moves urls (.saving url save) downloader (.runJob results)
        (.saved url (save.completion urls url) .error)
        { downloader with
          jobs := [], replies := [.downloadCompletion (save.completion urls url) .error] } []
  | created {downloader : URLDownloader Url Directory} (url : Url) (save : Save Url)
      (results : FileResults Url) {offline : List Directory}
      (succeeded : createDirectory (urls.offlineURLDirectoryID url) results.succeeded
        downloader.offline = some offline) :
      Moves urls (.saving url save) downloader (.runJob results) (.writing url save)
        { downloader with jobs := [save.writingJob url], offline := offline } []
  | endless {downloader : URLDownloader Url Directory} (url : Url) (save : Save Url)
      (results : FileResults Url)
      (endless : save.written urls downloader.distilledUrl downloader.savedSize results = none) :
      Moves urls (.writing url save) downloader (.runJob results) (.writing url save) downloader []
  | written {downloader : URLDownloader Url Directory} (url : Url) (save : Save Url)
      (results : FileResults Url) {success : SuccessState} {savedSize : Int}
      (written : save.written urls downloader.distilledUrl downloader.savedSize results =
        some (success, savedSize)) :
      Moves urls (.writing url save) downloader (.runJob results)
        (.saved url (save.completion urls url) success)
        { downloader with
          jobs := []
          savedSize
          replies := [.downloadCompletion (save.completion urls url) success] } []
  | notSaved {downloader : URLDownloader Url Directory} (url : Url)
      (completion : Completion Url Directory) :
      Moves urls (.saved url completion .error) downloader .runReply (.clearing url completion)
        { downloader with replies := [], jobs := [.deletePartial completion] } []
  | saved {stage' : Stage Url Directory} {downloader next : URLDownloader Url Directory}
      {effects : List (DownloaderEffect Url Directory)} (url : Url)
      (completion : Completion Url Directory) {success : SuccessState}
      (succeeded : success ≠ .error)
      (starts : Starts .idle downloader.finished stage' next effects) :
      Moves urls (.saved url completion success) downloader .runReply stage' next
        (.downloadCompletion (downloader.report completion success) :: effects)
  | clear {downloader : URLDownloader Url Directory} (url : Url)
      (completion : Completion Url Directory) (results : FileResults Url) :
      Moves urls (.clearing url completion) downloader (.runJob results)
        (.cleared url completion)
        { downloader with
          jobs := []
          offline := deleteDirectory (urls.offlineURLDirectoryID completion.url)
            results.succeeded downloader.offline
          replies := [.postDelete completion .error] } []
  | cleared {stage' : Stage Url Directory} {downloader next : URLDownloader Url Directory}
      {effects : List (DownloaderEffect Url Directory)} (url : Url)
      (completion : Completion Url Directory)
      (starts : Starts .idle downloader.finished stage' next effects) :
      Moves urls (.cleared url completion) downloader .runReply stage' next
        (.downloadCompletion (downloader.report completion .error) :: effects)

/-! ## Every input moves the task in progress -/

section Steps

variable {urls : OfflineUrls Url Directory} {stage stage' : Stage Url Directory}
variable {downloader next : URLDownloader Url Directory} {input : Input Url}
variable {effects : List (DownloaderEffect Url Directory)}

omit [DecidableEq Url] [DecidableEq Directory] in
theorem handleNextTask_cons {task : Task Url} {rest : List (Task Url)}
    (working : downloader.working = false) (distiller : downloader.distiller = none)
    (jobs : downloader.jobs = []) (queue : downloader.tasks = task :: rest) :
    handleNextTask downloader = some (downloader.begun task rest, [.started task]) := by
  rcases task with ⟨type, url⟩
  unfold handleNextTask begun
  cases type with
  | delete =>
    simp only [working, queue, jobs, List.nil_append]
    rfl
  | download =>
    simp only [working, queue, jobs, List.nil_append, dcheck_of distiller]
    rfl

omit [DecidableEq Url] [DecidableEq Directory] in
theorem Waits.handleNextTask (waits : Waits stage downloader) :
    ∃ stage' next effects, handleNextTask downloader = some (next, effects) ∧
      Starts stage downloader stage' next effects := by
  cases stage with
  | idle =>
    cases queue : downloader.tasks with
    | nil =>
      refine ⟨.idle, downloader, [], ?_, .empty queue⟩
      simp [URLDownloader.handleNextTask, queue]
    | cons _ _ =>
      exact ⟨_, _, _, handleNextTask_cons waits.working waits.distiller waits.jobs queue,
        .next queue⟩
  | _ =>
    refine ⟨_, downloader, [], ?_, .busy nofun⟩
    unfold URLDownloader.handleNextTask
    rw [waits.working]
    rfl

theorem Moves.at (moves : Moves urls stage downloader input stage' next effects)
    (at_ : At stage downloader) : At stage' next := by
  cases moves with
  | request _ starts => exact starts.at (at_.withTasks _)
  | deleted url success starts | found url starts | saved url completion succeeded starts
  | cleared _ _ starts => exact starts.at (at_.finished rfl rfl)
  | distill _ =>
    refine ⟨⟨at_.working, at_.jobs, rfl, at_.urlLoader, rfl, ?_, nofun⟩, nofun⟩
    simp [Stage.distiller]
  | hasMimeType url mimeType | redirectedToURL url redirectedUrl =>
    exact ⟨⟨at_.working, at_.jobs, at_.replies, at_.urlLoader, at_.distiller, at_.originalUrl,
      nofun⟩, nofun⟩
  | delete url results | check url results =>
    exact ⟨⟨at_.working, rfl, rfl, at_.urlLoader, at_.distiller, nofun, nofun⟩, nofun⟩
  | distilled url images title | notDistilled url images title =>
    refine ⟨⟨at_.working, rfl, at_.replies, at_.urlLoader, rfl, ?_, nofun⟩, nofun⟩
    simp [Stage.distiller, at_.originalUrl_of_distilling]
  | fetch _ _ _ isPDF =>
    refine ⟨⟨at_.working, at_.jobs, at_.replies, rfl, rfl, ?_, fun _ => isPDF⟩, nofun⟩
    simp [Stage.distiller, at_.originalUrl_of_distilling]
  | notLoaded url originalUrl downloaded responseMimeType failed
  | loaded _ _ _ _ =>
    exact ⟨⟨at_.working, rfl, at_.replies, rfl, at_.distiller, at_.originalUrl, nofun⟩, nofun⟩
  | created _ _ _ _ =>
    exact ⟨⟨at_.working, rfl, at_.replies, at_.urlLoader, at_.distiller, at_.originalUrl, nofun⟩,
      nofun⟩
  | endless _ _ _ _ => exact at_
  | notCreated url save results failed | written url save results written
  | notSaved url completion | clear _ _ _ =>
    exact ⟨⟨at_.working, rfl, rfl, at_.urlLoader, at_.distiller, at_.originalUrl, nofun⟩, nofun⟩

omit [DecidableEq Url] [DecidableEq Directory] in
theorem handleNextTask_self (resting : downloader.working = true ∨ downloader.tasks = []) :
    handleNextTask downloader = some (downloader, []) := by
  unfold handleNextTask
  grind

omit [DecidableEq Directory] in
/-- A request changes the queue, and the next task is handled where that can make a
difference. -/
theorem At.handleRequest_eq (at_ : At stage downloader) (request : Request Url) :
    downloader.handleRequest request =
      (handleNextTask
        { downloader with tasks := requestTasks downloader.tasks request }).map
          fun result => (result.1, requestEffects downloader.tasks request ++ result.2) := by
  have resting : downloader.working = true ∨ downloader.tasks = [] := by
    cases inProgress : stage.task with
    | none => exact .inr (at_.tasks inProgress)
    | some _ => simp [at_.working.trans, inProgress]
  cases request with
  | downloadOfflineURL url =>
    unfold handleRequest downloadOfflineURL requestTasks requestEffects
    by_cases queued : (.download, url) ∈ downloader.tasks
    · simp [if_pos queued, handleNextTask_self resting]
    · grind [handleNextTask]
  | removeOfflineURL url =>
    have same : ({ downloader.cancelDownloadOfflineURL url with
        tasks := (downloader.cancelDownloadOfflineURL url).tasks ++ [(.delete, url)] } :
          URLDownloader Url Directory) =
        { downloader with tasks := requestTasks downloader.tasks (.removeOfflineURL url) } := rfl
    unfold handleRequest removeOfflineURL
    simp only [same]
    cases handleNextTask
        { downloader with tasks := requestTasks downloader.tasks (.removeOfflineURL url) } <;>
      rfl
  | cancelDownloadOfflineURL url =>
    have restingAfter : downloader.working = true ∨
        withoutDownloads url downloader.tasks = [] := by
      rcases resting with working | none
      · exact .inl working
      · rw [none]
        exact .inr rfl
    rw [handleNextTask_self restingAfter]
    rfl

theorem At.moves_request (at_ : At stage downloader) (request : Request Url) :
    ∃ stage' next effects, step urls downloader (.request request) = some (next, effects) ∧
      Moves urls stage downloader (.request request) stage' next effects := by
  obtain ⟨stage', next, _, handled, starts⟩ :=
    (at_.withTasks (requestTasks downloader.tasks request)).handleNextTask
  refine ⟨stage', next, _, ?_, .request request starts⟩
  simp [step, at_.handleRequest_eq request, handled]

theorem At.moves_runReply (at_ : At stage downloader) (replies : stage.replies ≠ []) :
    ∃ stage' next effects, step urls downloader .runReply = some (next, effects) ∧
      Moves urls stage downloader .runReply stage' next effects := by
  have working : stage.task.isSome → downloader.working = true := at_.working.trans
  have resumed : stage.jobs = [] → stage.urlLoader = none → ∃ stage' next effects,
      handleNextTask downloader.finished = some (next, effects) ∧
        Starts .idle downloader.finished stage' next effects :=
    fun jobs urlLoader => (at_.finished jobs urlLoader).handleNextTask
  change ∃ stage' next effects, downloader.runReply = _ ∧ _
  unfold runReply
  rw [at_.replies]
  cases stage with
  | deleted url success =>
    obtain ⟨stage', next, effects, handled, starts⟩ := resumed rfl rfl
    have same : ({ downloader with replies := [], working := false } :
        URLDownloader Url Directory) = downloader.finished := by
      have distiller := at_.distiller
      cases downloader
      cases distiller
      rfl
    refine ⟨stage', next, _, ?_, .deleted url success starts⟩
    simp [Stage.replies, deleteCompletionHandler, dcheck_of (working rfl), same, handled]
  | checked url offlineUrlExists =>
    unfold Stage.replies downloadURL
    cases offlineUrlExists with
    | false => exact ⟨_, _, _, rfl, .distill url⟩
    | true =>
      obtain ⟨stage', next, effects, handled, starts⟩ := resumed rfl rfl
      refine ⟨stage', next, _, ?_, .found url starts⟩
      unfold downloadCompletionHandler postDelete
      unfold finished at handled
      simp only [dcheck_of (working rfl), handled]
      rfl
  | saved url completion success =>
    unfold Stage.replies downloadCompletionHandler
    by_cases failed : success = .error
    · subst failed
      refine ⟨_, _, _, ?_, .notSaved url completion⟩
      simp only [dcheck_of (working rfl), at_.jobs]
      rfl
    · obtain ⟨stage', next, effects, handled, starts⟩ := resumed rfl rfl
      refine ⟨stage', next, _, ?_, .saved url completion failed starts⟩
      unfold postDelete
      unfold finished at handled
      simp only [dcheck_of (working rfl), if_neg failed, handled]
      rfl
  | cleared url completion =>
    obtain ⟨stage', next, _, handled, starts⟩ := resumed rfl rfl
    refine ⟨stage', next, _, ?_, .cleared url completion starts⟩
    unfold Stage.replies postDelete
    unfold finished at handled
    simp only [handled]
    rfl
  | _ => exact absurd rfl replies

omit [DecidableEq Url] [DecidableEq Directory] in
theorem pdfCompletion_eq (own : downloader.originalUrl = url) :
    pdfCompletion urls downloader originalUrl = (Save.pdf originalUrl).completion urls url := by
  unfold pdfCompletion
  rw [own]
  rfl

variable {save : Save Url}

theorem At.runJob_saving (at_ : At (.saving url save) downloader) (results : FileResults Url) :
    ∃ stage' next, runJob urls downloader results = some next ∧
      Moves urls (.saving url save) downloader (.runJob results) stage' next [] := by
  have own : downloader.originalUrl = url := at_.originalUrl rfl
  unfold runJob
  rw [at_.jobs]
  cases created : createDirectory (urls.offlineURLDirectoryID url) results.succeeded
      downloader.offline with
  | none =>
    refine ⟨_, _, ?_, .notCreated url save results created⟩
    cases save with
    | html _ _ =>
      simp only [Stage.jobs, Save.savingJob, created, at_.replies]
      rfl
    | pdf _ =>
      simp only [Stage.jobs, Save.savingJob, own, created, pdfCompletion_eq own, at_.replies]
      rfl
  | some offline =>
    refine ⟨_, _, ?_, .created url save results created⟩
    cases save with
    | html _ _ =>
      simp only [Stage.jobs, Save.savingJob, created]
      rfl
    | pdf _ =>
      simp only [Stage.jobs, Save.savingJob, own, created]
      rfl

theorem At.runJob_writing (at_ : At (.writing url save) downloader) (results : FileResults Url) :
    ∃ stage' next, runJob urls downloader results = some next ∧
      Moves urls (.writing url save) downloader (.runJob results) stage' next [] := by
  have own : downloader.originalUrl = url := at_.originalUrl rfl
  unfold runJob
  rw [at_.jobs, at_.replies]
  cases save with
  | html images title =>
    simp only [Stage.jobs, Save.writingJob]
    cases written : writeDistilledHTML urls downloader.distilledUrl downloader.savedSize images
        results with
    | none => exact ⟨_, _, rfl, .endless url (.html images title) results written⟩
    | some _ => exact ⟨_, _, rfl, .written url (.html images title) results written⟩
  | pdf originalUrl =>
    simp only [Stage.jobs, Save.writingJob, pdfCompletion_eq own]
    cases moved : results.succeeded with
    | false => exact ⟨_, _, rfl, .written url (.pdf originalUrl) results (if_neg (by simp [moved]))⟩
    | true => exact ⟨_, _, rfl, .written url (.pdf originalUrl) results (if_pos moved)⟩

/-- The job at the head of the task runner belongs to the task in progress. -/
theorem At.moves_runJob (at_ : At stage downloader) (jobs : stage.jobs ≠ [])
    (results : FileResults Url) :
    ∃ stage' next, runJob urls downloader results = some next ∧
      Moves urls stage downloader (.runJob results) stage' next [] := by
  cases stage with
  | deleting url =>
    refine ⟨_, _, ?_, .delete url results⟩
    unfold runJob
    rw [at_.jobs, at_.replies]
    rfl
  | checking url =>
    refine ⟨_, _, ?_, .check url results⟩
    unfold runJob
    rw [at_.jobs, at_.replies]
    rfl
  | saving _ _ => exact at_.runJob_saving results
  | writing _ _ => exact at_.runJob_writing results
  | clearing url completion =>
    refine ⟨_, _, ?_, .clear url completion results⟩
    unfold runJob
    rw [at_.jobs, at_.replies]
    rfl
  | _ => exact absurd rfl jobs

theorem At.moves_distilled (at_ : At (.distilling url) downloader) (html : String)
    (images : List (ImageInfo Url)) (title : String) :
    ∃ stage' next, step urls downloader (.distilled html images title) = some (next, []) ∧
      Moves urls (.distilling url) downloader (.distilled html images title) stage' next [] := by
  have own := at_.originalUrl_of_distilling
  have distiller : downloader.distiller = some ⟨url, false⟩ := at_.distiller
  have stepped : step urls downloader (.distilled html images title) =
      distillerCallback urls { downloader with distiller := some ⟨url, true⟩ } url html images
        title := by
    simp [step, distiller]
  rw [stepped]
  unfold distillerCallback
  by_cases empty : html = ""
  · subst empty
    by_cases isPDF : downloader.mimeType = pdfMimeType
    · refine ⟨_, _, ?_, .fetch url images title isPDF⟩
      simp [fetchPDFFile, isPDF, own]
    · refine ⟨_, _, ?_, .notDistilled url images title isPDF⟩
      have working : downloader.working = true := at_.working
      unfold downloadCompletionHandler
      simp only [isPDF, if_true, if_false, dcheck_of working, at_.jobs]
      rfl
  · refine ⟨_, _, ?_, .distilled url images title empty⟩
    simp only [empty, if_false, at_.jobs]
    rfl

theorem At.moves_urlLoadComplete (at_ : At (.loading url originalUrl) downloader)
    (isPDF : downloader.mimeType = pdfMimeType) (downloaded : Bool)
    (responseMimeType : Option String) :
    ∃ stage' next,
      step urls downloader (.urlLoadComplete downloaded responseMimeType) = some (next, []) ∧
        Moves urls (.loading url originalUrl) downloader
          (.urlLoadComplete downloaded responseMimeType) stage' next [] := by
  have own : downloader.originalUrl = url := at_.originalUrl rfl
  have loader : downloader.urlLoader = some originalUrl := at_.urlLoader
  have working : downloader.working = true := at_.working
  have stepped : step urls downloader (.urlLoadComplete downloaded responseMimeType) =
      onURLLoadComplete urls downloader originalUrl downloaded responseMimeType := by
    simp [step, loader]
  rw [stepped]
  unfold onURLLoadComplete
  by_cases failed : downloaded = false ∨ responseMimeType.getD "" ≠ downloader.mimeType
  · refine ⟨_, _, ?_, .notLoaded url originalUrl downloaded responseMimeType failed⟩
    unfold downloadCompletionHandler
    simp only [dcheck_of isPDF, failed, dcheck_of working, at_.jobs, own]
    rfl
  · obtain ⟨isDownloaded, sameType⟩ := not_or.mp failed
    cases downloaded with
    | false => exact absurd rfl isDownloaded
    | true =>
      refine ⟨_, _, ?_, .loaded url originalUrl responseMimeType (not_not.mp sameType)⟩
      simp only [dcheck_of isPDF, failed, at_.jobs]
      rfl

/-- Every input that can come is taken without a failed assertion. -/
theorem At.moves (at_ : At stage downloader) (accepted : Accepts downloader input) :
    ∃ stage' next effects, step urls downloader input = some (next, effects) ∧
      Moves urls stage downloader input stage' next effects := by
  cases input with
  | request request => exact at_.moves_request request
  | hasMimeType mimeType =>
    obtain ⟨url, running⟩ := accepted
    cases Stage.eq_distilling (at_.distiller.symm.trans running)
    refine ⟨_, _, _, ?_, .hasMimeType url mimeType⟩
    simp [step, distilledPageHasMimeType, running, dcheck_of at_.originalUrl_of_distilling]
  | redirectedToURL redirectedUrl =>
    obtain ⟨url, running⟩ := accepted
    cases Stage.eq_distilling (at_.distiller.symm.trans running)
    refine ⟨_, _, _, ?_, .redirectedToURL url redirectedUrl⟩
    simp [step, distilledPageRedirectedToURL, running, dcheck_of at_.originalUrl_of_distilling]
  | distilled html images title =>
    obtain ⟨url, running⟩ := accepted
    cases Stage.eq_distilling (at_.distiller.symm.trans running)
    obtain ⟨stage', next, stepped, moves⟩ := at_.moves_distilled html images title
    exact ⟨stage', next, [], stepped, moves⟩
  | urlLoadComplete downloaded responseMimeType =>
    obtain ⟨_, loader⟩ := Option.ne_none_iff_exists'.mp accepted
    obtain ⟨_, rfl⟩ := Stage.eq_loading (at_.urlLoader.symm.trans loader)
    obtain ⟨stage', next, stepped, moves⟩ :=
      at_.moves_urlLoadComplete (at_.mimeType rfl) downloaded responseMimeType
    exact ⟨stage', next, [], stepped, moves⟩
  | runJob results =>
    have jobs : stage.jobs ≠ [] := at_.jobs ▸ accepted
    obtain ⟨stage', next, ran, moves⟩ := at_.moves_runJob jobs results
    refine ⟨stage', next, [], ?_, moves⟩
    simp [step, ran]
  | runReply =>
    have replies : stage.replies ≠ [] := at_.replies ▸ accepted
    exact at_.moves_runReply replies

/-- Whatever an input has done, the task in progress has moved by it. -/
theorem At.moves_of_step (at_ : At stage downloader) (accepted : Accepts downloader input)
    (stepped : step urls downloader input = some (next, effects)) :
    ∃ stage', Moves urls stage downloader input stage' next effects ∧ At stage' next := by
  obtain ⟨stage', _, _, stepped', moves⟩ := at_.moves accepted
  cases stepped.symm.trans stepped'
  exact ⟨stage', moves, moves.at at_⟩

/-- An input that moves a task can come. -/
theorem Moves.accepts (moves : Moves urls stage downloader input stage' next effects)
    (at_ : At stage downloader) : Accepts downloader input := by
  have job : stage.jobs ≠ [] → downloader.jobs ≠ [] := at_.jobs.symm ▸ id
  have reply : stage.replies ≠ [] → downloader.replies ≠ [] := at_.replies.symm ▸ id
  cases moves with
  | request _ _ => exact trivial
  | hasMimeType url mimeType | redirectedToURL url redirectedUrl | distilled url images title
  | fetch url images title | notDistilled url images title => exact ⟨url, at_.distiller⟩
  | notLoaded url originalUrl downloaded responseMimeType failed
  | loaded _ _ _ _ =>
    exact fun none => Option.some_ne_none _ (at_.urlLoader.symm.trans none)
  | delete url results | check url results | notCreated url save results failed
  | created url save results succeeded | endless url save results endless
  | written url save results written | clear url completion results =>
    exact job (List.cons_ne_nil _ _)
  | deleted url success starts | found url starts | distill url | notSaved url completion
  | saved url completion succeeded starts | cleared url completion starts =>
    exact reply (List.cons_ne_nil _ _)

/-- A stage at which the next reply reports, and what. -/
inductive Ends (downloader : URLDownloader Url Directory) :
    Stage Url Directory → DownloadReport Url Directory → Prop where
  | found (url : Url) :
      Ends downloader (.checked url true) (downloader.report ⟨url, "", .empty⟩ .downloadExists)
  | saved (url : Url) (completion : Completion Url Directory) {success : SuccessState}
      (succeeded : success ≠ .error) :
      Ends downloader (.saved url completion success) (downloader.report completion success)
  | cleared (url : Url) (completion : Completion Url Directory) :
      Ends downloader (.cleared url completion) (downloader.report completion .error)

omit [DecidableEq Url] [DecidableEq Directory] in
theorem Starts.reports (starts : Starts stage downloader stage' next effects) :
    URLDownloader.reports effects = [] := by
  cases starts <;> rfl

omit [DecidableEq Directory] in
theorem reports_requestEffects (tasks : List (Task Url)) (request : Request Url) :
    reports (requestEffects tasks request : List (DownloaderEffect Url Directory)) = [] := by
  cases request <;> simp [reports, requestEffects]

/-- An input reports at most once, and then the download is at its end. -/
theorem Moves.reports (moves : Moves urls stage downloader input stage' next effects) :
    URLDownloader.reports effects = [] ∨
      ∃ report rest, input = .runReply ∧ URLDownloader.reports effects = [report] ∧
        Ends downloader stage report ∧ Starts .idle downloader.finished stage' next rest := by
  cases moves with
  | request _ starts =>
    grind [URLDownloader.reports, reports_requestEffects, starts.reports]
  | deleted _ _ starts => exact .inl starts.reports
  | found url starts =>
    exact .inr ⟨_, _, rfl, congrArg (List.cons _) starts.reports, .found url, starts⟩
  | saved url completion succeeded starts =>
    exact .inr ⟨_, _, rfl, congrArg (List.cons _) starts.reports,
      .saved url completion succeeded, starts⟩
  | cleared url completion starts =>
    exact .inr ⟨_, _, rfl, congrArg (List.cons _) starts.reports, .cleared url completion,
      starts⟩
  | _ => exact .inl rfl

/-- The stage, the downloader and the input say what happens. -/
theorem Moves.deterministic {stage₁ stage₂ : Stage Url Directory}
    {next₁ next₂ : URLDownloader Url Directory} {effects₁ effects₂ : List _}
    (moves : Moves urls stage downloader input stage₁ next₁ effects₁)
    (others : Moves urls stage downloader input stage₂ next₂ effects₂) :
    next₁ = next₂ ∧ effects₁ = effects₂ := by
  cases moves with
  | request request starts =>
    cases others with
    | request _ others =>
      obtain ⟨-, same, sameEffects⟩ := starts.deterministic others
      grind
  | deleted _ _ starts =>
    cases others with
    | deleted _ _ others =>
      obtain ⟨-, same, sameEffects⟩ := starts.deterministic others
      grind
  | found _ starts =>
    cases others with
    | found _ others =>
      obtain ⟨-, same, sameEffects⟩ := starts.deterministic others
      grind
  | saved _ _ succeeded starts =>
    cases others with
    | notSaved => exact absurd rfl succeeded
    | saved _ _ _ others =>
      obtain ⟨-, same, sameEffects⟩ := starts.deterministic others
      grind
  | cleared _ _ starts =>
    cases others with
    | cleared _ _ others =>
      obtain ⟨-, same, sameEffects⟩ := starts.deterministic others
      grind
  | distilled url images title some_ | fetch url images title isPDF
  | notDistilled url images title notPDF
  | notLoaded url originalUrl downloaded responseMimeType failed
  | loaded url originalUrl responseMimeType samePDF | notCreated url save results failed
  | created url save results succeeded | notSaved url completion
  | endless url save results endless | written url save results written =>
    cases others <;> grind
  | delete | check | distill | hasMimeType | redirectedToURL | clear =>
    cases others
    exact ⟨rfl, rfl⟩

/-- A move is what the step does. -/
theorem Moves.step (moves : Moves urls stage downloader input stage' next effects)
    (at_ : At stage downloader) :
    URLDownloader.step urls downloader input = some (next, effects) := by
  obtain ⟨_, _, _, stepped, others⟩ := at_.moves (moves.accepts at_)
  obtain ⟨same, sameEffects⟩ := moves.deterministic others
  rw [stepped, same, sameEffects]

end Steps

end URLDownloader

end ChromiumIos
