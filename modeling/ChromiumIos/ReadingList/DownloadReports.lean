import ChromiumIos.ReadingList.PageImages
import ChromiumIos.ReadingList.TaskQueue

/-!
# The reports of downloads

A run of the downloader is watched: each download that begins, and each one that
ends, with the inputs of its own that it has had, what was reported, and whether
its directory remains.  A download is to report what it would have reported on a
new downloader that is asked for nothing else.

The members that hold what a page has told belong to the object, not to the
task, so this is so only while no task uses what it has not been told itself;
`Careful` says which steps do not.
-/

namespace ChromiumIos

open Lib

namespace URLDownloader

variable {Url Directory : Type}

/-! ## Watching the downloads -/

structure InProgress (Url : Type) where
  url : Url
  own : List (Input Url)

/-- What a run shows of its downloads.  The download that is in progress ends when a completion
is called; `remains` says whether its directory is there then. -/
inductive DownloadRecord (Url Directory : Type) where
  | began (url : Url)
  | ended (download : Option (InProgress Url)) (report : DownloadReport Url Directory)
      (remains : Bool)

abbrev Watched (Url Directory : Type) :=
  URLDownloader Url Directory × Option (InProgress Url)

/-- Requests are not addressed to the download in progress. -/
def Input.isOwn : Input Url → Bool
  | .request _ => false
  | _ => true

/-- Whether an input brings the download on.  A page may tell its type or where it was redirected
to as often as it likes. -/
def Input.decides : Input Url → Bool
  | .request _ | .hasMimeType _ | .redirectedToURL _ => false
  | _ => true

def Input.isMimeType : Input Url → Bool
  | .hasMimeType _ => true
  | _ => false

def InProgress.had (input : Input Url) (download : InProgress Url) : InProgress Url :=
  if input.isOwn then { download with own := download.own ++ [input] } else download

variable [DecidableEq Url] [DecidableEq Directory]
variable (urls : OfflineUrls Url Directory)

def see (offline : List Directory) (current : Option (InProgress Url)) :
    DownloaderEffect Url Directory → Option (InProgress Url) × List (DownloadRecord Url Directory)
  | .started (.download, url) => (some ⟨url, []⟩, [.began url])
  | .downloadCompletion report =>
    (none, [.ended current report
      (current.any fun download => urls.offlineURLDirectoryID download.url ∈ offline)])
  | _ => (current, [])

def seeAll (urls : OfflineUrls Url Directory) (offline : List Directory) :
    Option (InProgress Url) → List (DownloaderEffect Url Directory) →
      Option (InProgress Url) × List (DownloadRecord Url Directory)
  | current, [] => (current, [])
  | current, effect :: rest =>
    let seen := see urls offline current effect
    let later := seeAll urls offline seen.1 rest
    (later.1, seen.2 ++ later.2)

def initialWatched (emptyUrl : Url) (savedSize : Int) (offline : List Directory) :
    Watched Url Directory :=
  (initial emptyUrl savedSize offline, none)

def watchedStep (state : Watched Url Directory) (input : Input Url) :
    Checked (Watched Url Directory × List (DownloadRecord Url Directory)) := do
  let (after, effects) ← step urls state.1 input
  let (current, records) := seeAll urls after.offline (state.2.map (·.had input)) effects
  return ((after, current), records)

/-- What a new downloader reports on which nothing else is requested. -/
def solo (emptyUrl : Url) (savedSize : Int) (download : InProgress Url) :
    Checked (List (DownloadReport Url Directory)) := do
  let (_, effects) ← replay? (step urls) Accepts (initial emptyUrl savedSize [])
    (.request (.downloadOfflineURL download.url) :: download.own)
  return reports effects

/-- A download finds nothing on disk, comes to no image with an invalid URL, and what it leaves
behind when it fails is deleted. -/
def CarefulJob (downloader : URLDownloader Url Directory) (results : FileResults Url) :
    Job Url Directory → Prop
  | .pathExists url => urls.offlineURLDirectoryID url ∉ downloader.offline
  | .writeDistilledHTML _ images _ =>
    ¬ MeetsInvalid urls downloader.distilledUrl results ⟨[], downloader.savedSize⟩ images
  | .deletePartial completion =>
    urls.offlineURLDirectoryID completion.url ∈ downloader.offline → results.succeeded = true
  | _ => True

/-- A download uses only what it has been told itself: it takes a page for a PDF file only when
that page has told its type, and fetches the file from where it was asked to. -/
def Careful (state : Watched Url Directory) : Input Url → Prop
  | .distilled html _ _ =>
    html = "" → state.1.mimeType = pdfMimeType →
      state.2.any fun download => download.own.any Input.isMimeType
  | .urlLoadComplete downloaded responseMimeType =>
    downloaded = true → responseMimeType = some pdfMimeType →
      state.1.urlLoader = some state.1.originalUrl
  | .runJob results =>
    ∀ job ∈ state.1.jobs.head?, CarefulJob urls state.1 results job
  | _ => True

instance (downloader : URLDownloader Url Directory) (results : FileResults Url)
    (job : Job Url Directory) : Decidable (CarefulJob urls downloader results job) :=
  match job with
  | .pathExists url =>
    inferInstanceAs (Decidable (urls.offlineURLDirectoryID url ∉ downloader.offline))
  | .writeDistilledHTML _ images _ =>
    inferInstanceAs (Decidable (¬ MeetsInvalid urls downloader.distilledUrl results
      ⟨[], downloader.savedSize⟩ images))
  | .deletePartial completion =>
    inferInstanceAs (Decidable (urls.offlineURLDirectoryID completion.url ∈ downloader.offline →
      results.succeeded = true))
  | .deleteFile _ | .saveDistilledHTML _ _ _ | .savePDFFile _ | .movePDFFile _ => isTrue trivial

instance (state : Watched Url Directory) (input : Input Url) :
    Decidable (Careful urls state input) :=
  match input with
  | .distilled _ _ _ => inferInstanceAs (Decidable (_ → _ → _ = true))
  | .urlLoadComplete _ _ => inferInstanceAs (Decidable (_ → _ → _ = _))
  | .runJob _ => inferInstanceAs (Decidable (∀ _ ∈ state.1.jobs.head?, _))
  | .request _ | .hasMimeType _ | .redirectedToURL _ | .runReply => isTrue trivial

/-! ## What a download should report -/

def DownloadRecord.turn (current : Option Url) : DownloadRecord Url Directory →
    Option (Option Url)
  | .began url => if current = none then some (some url) else none
  | .ended download _ _ =>
    if current ≠ none ∧ download.map (·.url) = current then some none else none

def mostDeciding : Nat := 9

/-- A download reports for its own URL what it would have reported alone, and leaves nothing
behind when it fails. -/
structure OwnReport (urls : OfflineUrls Url Directory) (download : InProgress Url)
    (report : DownloadReport Url Directory) (remains : Bool) : Prop where
  url : report.url = download.url
  alone : ∀ emptyUrl savedSize, solo urls emptyUrl savedSize download = some [report]
  error : report.success = .error → remains = false

/-- What a watched run is to look like. -/
structure Reported (urls : OfflineUrls Url Directory)
    (records : List (DownloadRecord Url Directory)) (state : Watched Url Directory) : Prop where
  turns : records.foldlM DownloadRecord.turn none = some (state.2.map (·.url))
  /-- When nothing is in progress, every download that began has ended. -/
  rests : state.1.working = false → state.2 = none
  /-- A download in progress always waits for something, and not for much. -/
  goesOn : ∀ download ∈ state.2, (∃ input, input.decides ∧ Accepts state.1 input) ∧
    download.own.countP Input.decides < mostDeciding
  ends : ∀ ended report remains, .ended ended report remains ∈ records →
    ∃ download, ended = some download ∧ OwnReport urls download report remains

/-! ## A download and its stages -/

namespace Stage

omit [DecidableEq Url] [DecidableEq Directory]

/-- How many more inputs can bring the download on. -/
def remaining : Stage Url Directory → Nat
  | checking _ => 9
  | checked _ _ => 8
  | distilling _ => 7
  | loading _ _ => 6
  | saving _ _ => 5
  | writing _ _ => 4
  | saved _ _ _ => 3
  | clearing _ _ => 2
  | cleared _ _ => 1
  | idle | deleting _ | deleted _ _ => 0

/-- What is known of the download of a URL when it is careful: it has found nothing on disk, and
it saves and reports what belongs to its own URL. -/
def Owned (url : Url) (offline : List Directory) : Stage Url Directory → Prop
  | checked _ offlineUrlExists =>
    offlineUrlExists = false ∧ urls.offlineURLDirectoryID url ∉ offline
  | distilling _ | loading _ _ => urls.offlineURLDirectoryID url ∉ offline
  | saving _ save =>
    (save.completion urls url).url = url ∧ urls.offlineURLDirectoryID url ∉ offline
  | writing _ save => (save.completion urls url).url = url
  | saved _ completion _ | clearing _ completion | cleared _ completion => completion.url = url
  | _ => True

/-- What a failed download leaves behind is gone when it reports. -/
def Gone (directory : Directory) (offline : List Directory) : Stage Url Directory → Prop
  | cleared _ _ => directory ∉ offline
  | _ => True

theorem remaining_pos {stage : Stage Url Directory} {url : Url}
    (running : stage.download = some url) : 0 < stage.remaining := by
  cases stage with
  | idle | deleting | deleted => cases running
  | _ => exact Nat.succ_pos _

end Stage

/-- A download in progress and the same download on a downloader of its own. -/
structure Agrees (urls : OfflineUrls Url Directory) (url : Url) (stage : Stage Url Directory)
    (own : List (Input Url)) (downloader solo : URLDownloader Url Directory) : Prop where
  at_ : At stage solo
  tasks : solo.tasks = []
  members : stage.distiller.isSome →
    solo.distilledUrl = downloader.distilledUrl ∧ solo.savedSize = downloader.savedSize
  mimeType : solo.mimeType = if own.any Input.isMimeType then downloader.mimeType else ""
  offline : stage = .checking url → solo.offline = []
  owned : stage.Owned urls url solo.offline

section Steps

variable {urls : OfflineUrls Url Directory} {stage stage' : Stage Url Directory} {url : Url}
variable {downloader next solo solo' : URLDownloader Url Directory} {input : Input Url}
variable {effects : List (DownloaderEffect Url Directory)} {own : List (Input Url)}

omit [DecidableEq Url] in
theorem createDirectory_of_notMem {directory : Directory} {succeeded : Bool}
    {offline : List Directory} (absent : directory ∉ offline) :
    createDirectory directory succeeded offline =
      if succeeded then some (offline ++ [directory]) else none :=
  if_neg absent

/-- What a download has in common with one of its own stays so. -/
theorem Agrees.after (agrees : Agrees urls url stage own downloader solo)
    (moved : Moves urls stage solo input stage' solo' []) (other : input.isMimeType = false)
    (unchanged : solo'.tasks = solo.tasks ∧ solo'.mimeType = solo.mimeType ∧
      next.mimeType = downloader.mimeType)
    (begun : stage' ≠ .checking url)
    (members : stage'.distiller.isSome →
      solo'.distilledUrl = next.distilledUrl ∧ solo'.savedSize = next.savedSize)
    (owned : stage'.Owned urls url solo'.offline) :
    Agrees urls url stage' (own ++ [input]) next solo' := by
  obtain ⟨tasks, soloType, nextType⟩ := unchanged
  have told : (own ++ [input]).any Input.isMimeType = own.any Input.isMimeType := by
    simp [other]
  refine ⟨moved.at agrees.at_, tasks.trans agrees.tasks, members, ?_, fun same => absurd same begun,
    owned⟩
  rw [told, soloType, nextType]
  exact agrees.mimeType

omit [DecidableEq Url] [DecidableEq Directory] in
/-- The PDF type is one that a careful download has been told. -/
theorem Agrees.isPDF_iff (agrees : Agrees urls url stage own downloader solo)
    (told : downloader.mimeType = pdfMimeType → own.any Input.isMimeType) :
    solo.mimeType = pdfMimeType ↔ downloader.mimeType = pdfMimeType := by
  grind [pdfMimeType, agrees.mimeType]

omit [DecidableEq Directory] in
theorem writeDistilledHTML_eq_none_iff {distilledUrl : Url} {savedSize : Int}
    {images : List (ImageInfo Url)} {results : FileResults Url} :
    writeDistilledHTML urls distilledUrl savedSize images results = none ↔
      MeetsInvalid urls distilledUrl results ⟨[], savedSize⟩ images := by
  rw [← saveImages_eq_none_iff]
  unfold writeDistilledHTML
  grind

omit [DecidableEq Directory] in
/-- A careful download writes its files in the end. -/
theorem At.written {save : Save Url} {results : FileResults Url}
    {current : Option (InProgress Url)} (at_ : At (.writing url save) downloader)
    (careful : Careful urls (downloader, current) (.runJob results)) :
    save.written urls downloader.distilledUrl downloader.savedSize results ≠ none := by
  cases save with
  | html images title =>
    have valid : ¬ MeetsInvalid urls downloader.distilledUrl results ⟨[], downloader.savedSize⟩
        images := careful (.writeDistilledHTML url images title) (congrArg List.head? at_.jobs)
    exact fun endless => valid (writeDistilledHTML_eq_none_iff.mp endless)
  | pdf _ =>
    unfold Save.written
    grind

/-- A download that comes to an image with an invalid URL does not go on. -/
theorem At.endless {images : List (ImageInfo Url)} {title : String} {results : FileResults Url}
    (at_ : At (.writing url (.html images title)) downloader)
    (meets : MeetsInvalid urls downloader.distilledUrl results ⟨[], downloader.savedSize⟩ images) :
    step urls downloader (.runJob results) = some (downloader, []) :=
  (Moves.endless url (.html images title) results
    (writeDistilledHTML_eq_none_iff.mpr meets)).step at_

/-! ## What a download in progress does, it does alone as well -/

structure MovedAlone (urls : OfflineUrls Url Directory) (url : Url)
    (stage stage' : Stage Url Directory) (own : List (Input Url)) (input : Input Url)
    (next solo : URLDownloader Url Directory) : Prop where
  owned : stage'.Owned urls url next.offline
  running : stage'.download = some url
  alone : ∃ solo', Moves urls stage solo input stage' solo' [] ∧
    Agrees urls url stage' (own ++ [input]) next solo'

/-- What the page tells while it is distilled. -/
theorem Agrees.moves_told (agrees : Agrees urls url stage own downloader solo)
    (owned : stage.Owned urls url downloader.offline) (running : stage.download = some url)
    (moves : Moves urls stage downloader input stage' next effects)
    (told : input.isOwn = true ∧ input.decides = false) :
    MovedAlone urls url stage stage' own input next solo := by
  cases moves with
  | hasMimeType _ mimeType =>
    cases running
    have moved : Moves urls (.distilling url) solo (.hasMimeType mimeType) (.distilling url) _
        [] := .hasMimeType url mimeType
    have hasTold : (own ++ [Input.hasMimeType mimeType]).any Input.isMimeType := by
      simp [Input.isMimeType]
    refine ⟨owned, rfl, _, moved, moved.at agrees.at_, agrees.tasks, agrees.members, ?_, nofun,
      agrees.owned⟩
    rw [if_pos hasTold]
  | redirectedToURL _ redirectedUrl =>
    cases running
    have moved : Moves urls (.distilling url) solo (.redirectedToURL redirectedUrl)
        (.distilling url) _ [] := .redirectedToURL url redirectedUrl
    exact ⟨owned, rfl, _, moved, agrees.after moved rfl ⟨rfl, rfl, rfl⟩ nofun
      (fun _ => ⟨rfl, (agrees.members rfl).2⟩) agrees.owned⟩
  | request => cases told.1
  | _ => cases told.2

theorem Agrees.moves_distilled (agrees : Agrees urls url stage own downloader solo)
    (owned : stage.Owned urls url downloader.offline) (running : stage.download = some url)
    {html : String} {images : List (ImageInfo Url)} {title : String}
    (moves : Moves urls stage downloader (.distilled html images title) stage' next effects)
    (careful : Careful urls (downloader, some ⟨url, own⟩) (.distilled html images title)) :
    MovedAlone urls url stage stage' own (.distilled html images title) next solo := by
  cases moves with
  | distilled _ _ _ some_ =>
    cases running
    have moved : Moves urls (.distilling url) solo (.distilled html images title)
        (.saving url (.html images title)) _ [] := .distilled url images title some_
    exact ⟨⟨rfl, owned⟩, rfl, _, moved,
      agrees.after moved rfl ⟨rfl, rfl, rfl⟩ nofun agrees.members ⟨rfl, agrees.owned⟩⟩
  | fetch _ _ _ isPDF =>
    cases running
    have isPDFSolo := (agrees.isPDF_iff (careful rfl)).mpr isPDF
    obtain ⟨sameUrl, sameSize⟩ := agrees.members rfl
    have moved : Moves urls (.distilling url) solo (.distilled "" images title)
        (.loading url (if urls.isValid solo.distilledUrl then solo.distilledUrl else url)) _
        [] := .fetch url images title isPDFSolo
    rw [sameUrl] at moved
    exact ⟨owned, rfl, _, moved,
      agrees.after moved rfl ⟨rfl, rfl, rfl⟩ nofun (fun _ => ⟨rfl, sameSize⟩) agrees.owned⟩
  | notDistilled _ _ _ notPDF =>
    cases running
    have notPDFSolo := (not_congr (agrees.isPDF_iff (careful rfl))).mpr notPDF
    have moved : Moves urls (.distilling url) solo (.distilled "" images title)
        (.clearing url ⟨url, "", .empty⟩) _ [] := .notDistilled url images title notPDFSolo
    exact ⟨rfl, rfl, _, moved,
      agrees.after moved rfl ⟨rfl, rfl, rfl⟩ nofun agrees.members rfl⟩

theorem Agrees.moves_urlLoadComplete (agrees : Agrees urls url stage own downloader solo)
    (owned : stage.Owned urls url downloader.offline) (running : stage.download = some url)
    (at_ : At stage downloader) {downloaded : Bool} {responseMimeType : Option String}
    (moves : Moves urls stage downloader (.urlLoadComplete downloaded responseMimeType) stage'
      next effects)
    (careful : Careful urls (downloader, some ⟨url, own⟩)
      (.urlLoadComplete downloaded responseMimeType)) :
    MovedAlone urls url stage stage' own (.urlLoadComplete downloaded responseMimeType) next
      solo := by
  cases moves with
  | notLoaded _ originalUrl _ _ failed =>
    cases running
    have sameType : solo.mimeType = downloader.mimeType :=
      (agrees.at_.mimeType rfl).trans (at_.mimeType rfl).symm
    have moved : Moves urls (.loading url originalUrl) solo
        (.urlLoadComplete downloaded responseMimeType)
        (.clearing url ⟨url, "", offlinePagePath urls url .pdf⟩) _ [] :=
      .notLoaded url originalUrl downloaded responseMimeType (sameType ▸ failed)
    exact ⟨rfl, rfl, _, moved,
      agrees.after moved rfl ⟨rfl, rfl, rfl⟩ nofun agrees.members rfl⟩
  | loaded _ originalUrl _ samePDF =>
    cases running
    have isPDF := at_.mimeType rfl
    have sameType : solo.mimeType = downloader.mimeType :=
      (agrees.at_.mimeType rfl).trans isPDF.symm
    have response : responseMimeType = some pdfMimeType := by
      cases responseMimeType <;> grind [pdfMimeType]
    have ownPDF : originalUrl = url := by
      have loader := careful rfl response
      rw [at_.urlLoader, at_.originalUrl rfl] at loader
      exact Option.some.inj loader
    have moved : Moves urls (.loading url originalUrl) solo
        (.urlLoadComplete true responseMimeType) (.saving url (.pdf originalUrl)) _ [] :=
      .loaded url originalUrl responseMimeType (sameType ▸ samePDF)
    exact ⟨⟨ownPDF, owned⟩, rfl, _, moved,
      agrees.after moved rfl ⟨rfl, rfl, rfl⟩ nofun agrees.members ⟨ownPDF, agrees.owned⟩⟩

/-- The directory of a page that is to be saved is made, or the download has failed. -/
theorem Agrees.moves_saving {save : Save Url} {results : FileResults Url}
    (agrees : Agrees urls url (.saving url save) own downloader solo)
    (owned : (Stage.saving url save).Owned urls url downloader.offline)
    (moves : Moves urls (.saving url save) downloader (.runJob results) stage' next effects) :
    MovedAlone urls url (.saving url save) stage' own (.runJob results) next solo := by
  cases moves with
  | notCreated _ _ _ failed =>
    rw [createDirectory_of_notMem owned.2] at failed
    have failedSolo : createDirectory (urls.offlineURLDirectoryID url) results.succeeded
        solo.offline = none := by
      simpa [createDirectory_of_notMem agrees.owned.2] using failed
    have moved : Moves urls (.saving url save) solo (.runJob results)
        (.saved url (save.completion urls url) .error) _ [] :=
      .notCreated url save results failedSolo
    exact ⟨owned.1, rfl, _, moved,
      agrees.after moved rfl ⟨rfl, rfl, rfl⟩ nofun agrees.members owned.1⟩
  | created _ _ _ succeeded =>
    rw [createDirectory_of_notMem owned.2] at succeeded
    have succeededSolo : createDirectory (urls.offlineURLDirectoryID url) results.succeeded
        solo.offline = some (solo.offline ++ [urls.offlineURLDirectoryID url]) := by
      grind [createDirectory_of_notMem agrees.owned.2]
    have moved : Moves urls (.saving url save) solo (.runJob results) (.writing url save) _ [] :=
      .created url save results succeededSolo
    exact ⟨owned.1, rfl, _, moved,
      agrees.after moved rfl ⟨rfl, rfl, rfl⟩ nofun agrees.members owned.1⟩

theorem Agrees.moves_runJob (agrees : Agrees urls url stage own downloader solo)
    (owned : stage.Owned urls url downloader.offline) (running : stage.download = some url)
    (at_ : At stage downloader) {results : FileResults Url}
    (moves : Moves urls stage downloader (.runJob results) stage' next effects)
    (careful : Careful urls (downloader, some ⟨url, own⟩) (.runJob results)) :
    MovedAlone urls url stage stage' own (.runJob results) next solo := by
  cases moves with
  | delete => cases running
  | check _ _ =>
    cases running
    have absent : urls.offlineURLDirectoryID url ∉ downloader.offline :=
      careful (.pathExists url) (congrArg List.head? at_.jobs)
    have absentSolo : urls.offlineURLDirectoryID url ∉ solo.offline := by
      simp [agrees.offline rfl]
    have moved : Moves urls (.checking url) solo (.runJob results)
        (.checked url (urls.offlineURLDirectoryID url ∈ solo.offline)) _ [] :=
      .check url results
    rw [decide_eq_false absentSolo] at moved
    rw [decide_eq_false absent]
    exact ⟨⟨rfl, absent⟩, rfl, _, moved,
      agrees.after moved rfl ⟨rfl, rfl, rfl⟩ nofun nofun ⟨rfl, absentSolo⟩⟩
  | notCreated _ save _ failed =>
    cases running
    exact agrees.moves_saving owned (.notCreated url save results failed)
  | created _ save _ succeeded =>
    cases running
    exact agrees.moves_saving owned (.created url save results succeeded)
  | endless _ _ _ endless =>
    cases running
    exact absurd endless (at_.written careful)
  | written _ save _ written =>
    cases running
    obtain ⟨sameUrl, sameSize⟩ := agrees.members rfl
    rw [← sameUrl, ← sameSize] at written
    have moved := Moves.written url save results written
    exact ⟨owned, rfl, _, moved,
      agrees.after moved rfl ⟨rfl, rfl, rfl⟩ nofun (fun _ => ⟨sameUrl, rfl⟩) owned⟩
  | clear _ completion _ =>
    cases running
    have moved : Moves urls (.clearing url completion) solo (.runJob results)
        (.cleared url completion) _ [] := .clear url completion results
    exact ⟨owned, rfl, _, moved,
      agrees.after moved rfl ⟨rfl, rfl, rfl⟩ nofun agrees.members agrees.owned⟩

theorem Agrees.moves_runReply (agrees : Agrees urls url stage own downloader solo)
    (owned : stage.Owned urls url downloader.offline) (running : stage.download = some url)
    (moves : Moves urls stage downloader .runReply stage' next effects) (quiet : effects = []) :
    MovedAlone urls url stage stage' own .runReply next solo := by
  cases moves with
  | distill _ =>
    cases running
    have moved : Moves urls (.checked url false) solo .runReply (.distilling url) _ [] :=
      .distill url
    exact ⟨owned.2, rfl, _, moved,
      agrees.after moved rfl ⟨rfl, rfl, rfl⟩ nofun (fun _ => ⟨rfl, rfl⟩) agrees.owned.2⟩
  | notSaved _ completion =>
    cases running
    have moved : Moves urls (.saved url completion .error) solo .runReply
        (.clearing url completion) _ [] := .notSaved url completion
    exact ⟨owned, rfl, _, moved,
      agrees.after moved rfl ⟨rfl, rfl, rfl⟩ nofun agrees.members agrees.owned⟩
  | deleted | found | saved | cleared => cases quiet

theorem Agrees.moves (agrees : Agrees urls url stage own downloader solo)
    (owned : stage.Owned urls url downloader.offline) (running : stage.download = some url)
    (at_ : At stage downloader)
    (moves : Moves urls stage downloader input stage' next effects) (quiet : effects = [])
    (careful : Careful urls (downloader, some ⟨url, own⟩) input) :
    MovedAlone urls url stage stage' own input next solo := by
  cases input with
  | request _ =>
    cases moves with
    | request => cases quiet
  | hasMimeType _ => exact agrees.moves_told owned running moves ⟨rfl, rfl⟩
  | redirectedToURL _ => exact agrees.moves_told owned running moves ⟨rfl, rfl⟩
  | distilled _ _ _ => exact agrees.moves_distilled owned running moves careful
  | urlLoadComplete _ _ => exact agrees.moves_urlLoadComplete owned running at_ moves careful
  | runJob _ => exact agrees.moves_runJob owned running at_ moves careful
  | runReply => exact agrees.moves_runReply owned running moves quiet

/-- A careful download that has failed leaves nothing behind. -/
theorem Moves.gone (moves : Moves urls stage downloader input stage' next effects)
    (owned : stage.Owned urls url downloader.offline) (at_ : At stage downloader)
    (running : stage.download = some url)
    (careful : Careful urls (downloader, some ⟨url, own⟩) input) (quiet : effects = []) :
    stage'.Gone (urls.offlineURLDirectoryID url) next.offline := by
  cases moves with
  | clear _ completion results =>
    have ownUrl : completion.url = url := owned
    have careful : urls.offlineURLDirectoryID completion.url ∈ downloader.offline →
        results.succeeded = true :=
      careful (.deletePartial completion) (congrArg List.head? at_.jobs)
    grind [Stage.Gone, notMem_deleteDirectory_self, notMem_deleteDirectory]
  | request | deleted | found | saved | cleared => cases quiet
  | _ => exact trivial

/-- Every careful input that decides something brings the download on. -/
theorem Moves.remaining (moves : Moves urls stage downloader input stage' next effects)
    (at_ : At stage downloader) (running : stage.download = some url)
    (careful : Careful urls (downloader, some ⟨url, own⟩) input) (quiet : effects = []) :
    stage'.remaining + (if input.decides then 1 else 0) ≤ stage.remaining := by
  cases moves with
  | endless _ _ _ endless => exact absurd endless (at_.written careful)
  | request | deleted | found | saved | cleared => cases quiet
  | delete => cases running
  | _ => simp [Input.decides, Stage.remaining]

/-- The end of a download, and of the same download alone. -/
theorem Agrees.ends (agrees : Agrees urls url stage own downloader solo)
    (owned : stage.Owned urls url downloader.offline)
    (gone : stage.Gone (urls.offlineURLDirectoryID url) downloader.offline)
    (running : stage.download = some url)
    (moves : Moves urls stage downloader input stage' next effects) (isOwn : input.isOwn)
    (loud : effects ≠ []) :
    ∃ report rest solo', effects = .downloadCompletion report :: rest ∧
      Starts .idle downloader.finished stage' next rest ∧
      Moves urls stage solo input .idle solo' [.downloadCompletion report] ∧
      report.url = url ∧
      (report.success = .error → urls.offlineURLDirectoryID url ∉ downloader.offline) := by
  have rested : Starts .idle solo.finished .idle solo.finished
      ([] : List (DownloaderEffect Url Directory)) := .empty agrees.tasks
  have sameReport : stage.distiller.isSome →
      solo.report = downloader.report := by grind [report, agrees.members]
  cases moves with
  | request => cases isOwn
  | deleted => cases running
  | found _ _ => cases owned.1
  | saved other completion succeeded starts =>
    have moved : Moves urls (.saved other completion _) solo .runReply .idle _ _ :=
      .saved other completion succeeded rested
    rw [sameReport rfl] at moved
    exact ⟨_, _, _, rfl, starts, moved, owned, fun failed => absurd failed succeeded⟩
  | cleared other completion starts =>
    have moved : Moves urls (.cleared other completion) solo .runReply .idle _ _ :=
      .cleared other completion rested
    rw [sameReport rfl] at moved
    exact ⟨_, _, _, rfl, starts, moved, owned, fun _ => gone⟩
  | _ => exact absurd rfl loud

/-- What is known of the download in progress. -/
structure Alone (urls : OfflineUrls Url Directory) (url : Url) (stage : Stage Url Directory)
    (own : List (Input Url)) (downloader : URLDownloader Url Directory) : Prop where
  owned : stage.Owned urls url downloader.offline
  gone : stage.Gone (urls.offlineURLDirectoryID url) downloader.offline
  bounded : own.countP Input.decides + stage.remaining ≤ mostDeciding
  solo : ∀ emptyUrl savedSize, ∃ solo effects,
    replay? (step urls) Accepts (initial emptyUrl savedSize [])
        (.request (.downloadOfflineURL url) :: own) = some (solo, effects) ∧
      reports effects = [] ∧ Agrees urls url stage own downloader solo

structure Follows (urls : OfflineUrls Url Directory) (stage : Stage Url Directory)
    (downloader : URLDownloader Url Directory) (current : Option (InProgress Url)) : Prop where
  inProgress : current.map (·.url) = stage.download
  alone : ∀ download ∈ current, Alone urls download.url stage download.own downloader

/-- The records of a step are right, and what is watched goes on. -/
structure Followed (urls : OfflineUrls Url Directory) (stage : Stage Url Directory)
    (downloader : URLDownloader Url Directory) (before : Option Url)
    (result : Option (InProgress Url) × List (DownloadRecord Url Directory)) : Prop where
  follows : Follows urls stage downloader result.1
  turns : result.2.foldlM DownloadRecord.turn before = some (result.1.map (·.url))
  ends : ∀ ended report remains, .ended ended report remains ∈ result.2 →
    ∃ download, ended = some download ∧ OwnReport urls download report remains

theorem Alone.begun (url : Url) (downloader : URLDownloader Url Directory) :
    Alone urls url (.checking url) [] downloader where
  owned := trivial
  gone := trivial
  bounded := Nat.le_refl _
  solo emptyUrl savedSize := by
    let new : URLDownloader Url Directory := initial emptyUrl savedSize []
    refine ⟨new.begun (.download, url) [], _, rfl, rfl, ?_, rfl, nofun, rfl, fun _ => rfl, trivial⟩
    exact (at_initial emptyUrl savedSize []).begun (.download, url) []

omit [DecidableEq Url] [DecidableEq Directory] in
theorem Starts.offline (starts : Starts stage downloader stage' next effects) :
    next.offline = downloader.offline := by
  cases starts <;> rfl

/-- A task that starts is watched from its beginning. -/
theorem Starts.follows {current : Option (InProgress Url)} {offline : List Directory}
    (starts : Starts stage downloader stage' next effects)
    (follows : Follows urls stage downloader current) :
    Followed urls stage' next (current.map (·.url)) (seeAll urls offline current effects) := by
  cases starts with
  | busy inProgress | empty none => exact ⟨follows, rfl, nofun⟩
  | next queue =>
    rename_i task rest
    have none : current = none := Option.map_eq_none_iff.mp follows.inProgress
    subst none
    rcases task with ⟨type, url⟩
    cases type with
    | delete => exact ⟨⟨rfl, nofun⟩, rfl, nofun⟩
    | download =>
      refine ⟨⟨rfl, ?_⟩, rfl, ?_⟩
      · rintro download same
        cases same
        exact Alone.begun url _
      · intro ended report remains mem
        cases List.mem_singleton.mp mem

/-- A download that goes on does so alone as well. -/
theorem Alone.moves (alone : Alone urls url stage own downloader) (at_ : At stage downloader)
    (running : stage.download = some url)
    (moves : Moves urls stage downloader input stage' next effects) (quiet : effects = [])
    (careful : Careful urls (downloader, some ⟨url, own⟩) input) :
    stage'.download = some url ∧ Alone urls url stage' (own ++ [input]) next := by
  have kept (solo : URLDownloader Url Directory)
      (agrees : Agrees urls url stage own downloader solo) :=
    agrees.moves alone.owned running at_ moves quiet careful
  obtain ⟨solo, -, -, -, agrees⟩ := alone.solo url 0
  obtain ⟨owned, stillRunning, -⟩ := kept solo agrees
  refine ⟨stillRunning, owned, moves.gone alone.owned at_ running careful quiet, ?_, ?_⟩
  · have fewer := moves.remaining at_ running careful quiet
    have bounded := alone.bounded
    grind
  · intro emptyUrl savedSize
    obtain ⟨solo, others, replayed, silent, agrees⟩ := alone.solo emptyUrl savedSize
    obtain ⟨-, -, solo', moved, agreesAfter⟩ := kept solo agrees
    refine ⟨solo', others ++ [], ?_, ?_, agreesAfter⟩
    · exact replay?_concat replayed (moved.accepts agrees.at_) (moved.step agrees.at_)
    · rw [List.append_nil]
      exact silent

/-- A download that ends reports what it reports alone. -/
theorem Alone.ends (alone : Alone urls url stage own downloader)
    (running : stage.download = some url)
    (moves : Moves urls stage downloader input stage' next effects) (isOwn : input.isOwn)
    (loud : effects ≠ []) :
    ∃ report rest, effects = .downloadCompletion report :: rest ∧
      Starts .idle downloader.finished stage' next rest ∧
      OwnReport urls ⟨url, own ++ [input]⟩ report
        (urls.offlineURLDirectoryID url ∈ downloader.offline) := by
  have ended (solo : URLDownloader Url Directory)
      (agrees : Agrees urls url stage own downloader solo) :=
    agrees.ends alone.owned alone.gone running moves isOwn loud
  obtain ⟨solo, -, -, -, agrees⟩ := alone.solo url 0
  obtain ⟨report, rest, -, split, starts, -, ownUrl, gone⟩ := ended solo agrees
  refine ⟨report, rest, split, starts, ownUrl, ?_, fun failed => decide_eq_false (gone failed)⟩
  intro emptyUrl savedSize
  obtain ⟨solo, others, replayed, silent, agrees⟩ := alone.solo emptyUrl savedSize
  obtain ⟨_, _, _, same, -, moved, -⟩ := ended solo agrees
  cases split.symm.trans same
  have concluded := replay?_concat replayed (moved.accepts agrees.at_) (moved.step agrees.at_)
  unfold URLDownloader.solo
  rw [← List.cons_append, concluded]
  change some (reports (others ++ _)) = _
  rw [reports_append, silent]
  rfl

theorem Follows.withTasks {current : Option (InProgress Url)} (tasks : List (Task Url))
    (follows : Follows urls stage downloader current) :
    Follows urls stage { downloader with tasks } current := by
  refine ⟨follows.inProgress, fun download mem => ?_⟩
  obtain ⟨owned, gone, bounded, solo⟩ := follows.alone download mem
  refine ⟨owned, gone, bounded, fun emptyUrl savedSize => ?_⟩
  obtain ⟨solo, effects, replayed, silent, agrees⟩ := solo emptyUrl savedSize
  exact ⟨solo, effects, replayed, silent, agrees.at_, agrees.tasks, agrees.members,
    agrees.mimeType, agrees.offline, agrees.owned⟩

theorem seeAll_requestEffects (offline : List Directory) (current : Option (InProgress Url))
    (tasks : List (Task Url)) (request : Request Url) :
    seeAll urls offline current (requestEffects tasks request ++ effects) =
      seeAll urls offline current effects := by
  cases request with
  | downloadOfflineURL _ =>
    unfold requestEffects
    simp only
    split <;> rfl
  | removeOfflineURL url | cancelDownloadOfflineURL url => rfl

/-- Every careful input is watched rightly. -/
theorem Follows.moves {current : Option (InProgress Url)}
    (follows : Follows urls stage downloader current) (at_ : At stage downloader)
    (moves : Moves urls stage downloader input stage' next effects)
    (careful : Careful urls (downloader, current) input) :
    Followed urls stage' next (current.map (·.url))
      (seeAll urls next.offline (current.map (·.had input)) effects) := by
  by_cases isOwn : input.isOwn
  · cases running : stage.download with
    | none =>
      have none : current = none := by
        rw [← Option.map_eq_none_iff, follows.inProgress, running]
      subst none
      cases moves with
      | request => cases isOwn
      | delete _ _ => exact ⟨⟨rfl, nofun⟩, rfl, nofun⟩
      | deleted _ _ starts =>
        have resting : Follows urls .idle downloader.finished none := ⟨rfl, nofun⟩
        exact starts.follows resting
      | _ => cases running
    | some _ =>
      obtain ⟨download, rfl, rfl⟩ :=
        Option.map_eq_some_iff.mp (follows.inProgress.trans running)
      have alone := follows.alone download rfl
      have had : download.had input = ⟨download.url, download.own ++ [input]⟩ := if_pos isOwn
      rw [Option.map_some, Option.map_some, had]
      by_cases quiet : effects = []
      · obtain ⟨stillRunning, aloneAfter⟩ := alone.moves at_ running moves quiet careful
        subst quiet
        refine ⟨⟨stillRunning.symm, ?_⟩, rfl, nofun⟩
        simp [seeAll, aloneAfter]
      · obtain ⟨_, rest, rfl, starts, ownReport⟩ :=
          alone.ends running moves isOwn quiet
        have resting : Follows urls .idle downloader.finished none := ⟨rfl, nofun⟩
        have followed : Followed urls stage' next none (seeAll urls next.offline none rest) :=
          starts.follows resting
        obtain ⟨followsAfter, turns, ends⟩ := followed
        refine ⟨followsAfter, ?_, ?_⟩
        · change (if some download.url ≠ none ∧ some download.url = some download.url
            then some none else none).bind _ = _
          simp [seeAll, see, turns]
        · intro ended reported remains mem
          rcases List.mem_cons.mp mem with same | later
          · cases same
            refine ⟨_, rfl, ?_⟩
            have unchanged : next.offline = downloader.offline := starts.offline
            simp [unchanged, ownReport]
          · exact ends ended reported remains later
  · cases moves with
    | request request starts =>
      have unchanged : current.map (·.had (.request request)) = current := Option.map_id'
      rw [unchanged]
      change Followed _ _ _ _ (seeAll _ _ _ (requestEffects downloader.tasks request ++ _))
      rw [seeAll_requestEffects]
      exact starts.follows (follows.withTasks _)
    | _ => exact absurd rfl isOwn

omit [DecidableEq Url] [DecidableEq Directory] in
/-- A download in progress waits for something. -/
theorem At.waitsFor (at_ : At stage downloader) (running : stage.download = some url) :
    ∃ input : Input Url, input.decides ∧ Accepts downloader input := by
  have job (waits : stage.jobs ≠ []) :
      ∃ input : Input Url, input.decides ∧ Accepts downloader input := by
    refine ⟨.runJob ⟨true, fun _ => 0, 0, 0⟩, rfl, ?_⟩
    simp [Accepts, at_.jobs, waits]
  have reply (waits : stage.replies ≠ []) :
      ∃ input : Input Url, input.decides ∧ Accepts downloader input := by
    refine ⟨.runReply, rfl, ?_⟩
    simp [Accepts, at_.replies, waits]
  cases stage with
  | idle | deleting | deleted => cases running
  | checking | saving | writing | clearing => exact job (List.cons_ne_nil _ _)
  | checked | saved | cleared => exact reply (List.cons_ne_nil _ _)
  | distilling other => exact ⟨.distilled "" [] "", rfl, other, at_.distiller⟩
  | loading _ _ =>
    refine ⟨.urlLoadComplete false none, rfl, ?_⟩
    change downloader.urlLoader ≠ none
    rw [at_.urlLoader]
    nofun

end Steps

/-! ## Runs -/

section Runs

variable {urls : OfflineUrls Url Directory} {stage : Stage Url Directory}
variable {state : Watched Url Directory} {records : List (DownloadRecord Url Directory)}

/-- A state of a watched run whose downloads have been right so far. -/
structure Right (urls : OfflineUrls Url Directory) (stage : Stage Url Directory)
    (records : List (DownloadRecord Url Directory)) (state : Watched Url Directory) : Prop where
  at_ : At stage state.1
  follows : Follows urls stage state.1 state.2
  turns : records.foldlM DownloadRecord.turn none = some (state.2.map (·.url))
  ends : ∀ ended report remains, .ended ended report remains ∈ records →
    ∃ download, ended = some download ∧ OwnReport urls download report remains

theorem Right.next {after : Watched Url Directory} {input : Input Url}
    {emitted : List (DownloadRecord Url Directory)} (right : Right urls stage records state)
    (accepted : Accepts state.1 input) (careful : Careful urls state input)
    (stepped : watchedStep urls state input = some (after, emitted)) :
    ∃ stage', Right urls stage' (records ++ emitted) after := by
  obtain ⟨⟨_, _⟩, step, watched⟩ := Option.bind_eq_some_iff.mp stepped
  obtain ⟨stage', moves, atNext⟩ := right.at_.moves_of_step accepted step
  obtain ⟨follows, turns, ends⟩ := right.follows.moves right.at_ moves careful
  cases watched
  refine ⟨stage', atNext, follows, ?_, fun ended report remains mem => ?_⟩
  · simp [right.turns, turns]
  · rcases List.mem_append.mp mem with earlier | now
    · exact right.ends ended report remains earlier
    · exact ends ended report remains now

theorem Right.reported (right : Right urls stage records state) :
    Reported urls records state where
  turns := right.turns
  rests idle := by
    have resting : stage.task = none := by
      rw [← Option.not_isSome_iff_eq_none, ← right.at_.working, idle]
      nofun
    rw [← Option.map_eq_none_iff, right.follows.inProgress]
    unfold Stage.download
    rw [resting]
  goesOn download mem := by
    have running : stage.download = some download.url := by
      rw [← right.follows.inProgress, Option.mem_def.mp mem]
      rfl
    refine ⟨right.at_.waitsFor running, ?_⟩
    have bounded := (right.follows.alone download mem).bounded
    have more := Stage.remaining_pos running
    omega
  ends := right.ends

/-- While no download uses what it has not been told itself, every download that
begins ends once, with a report for its own URL that is what it would have
reported alone, and a failed one leaves no directory behind. -/
theorem run_reports (urls : OfflineUrls Url Directory) (emptyUrl : Url) (savedSize : Int)
    (offline : List Directory) (records : List (DownloadRecord Url Directory))
    (state : Watched Url Directory)
    (run : Runs (watchedStep urls)
      (fun state input => Accepts state.1 input ∧ Careful urls state input)
      (initialWatched emptyUrl savedSize offline) records state) :
    Reported urls records state := by
  have right : ∃ stage, Right urls stage records state := by
    apply run.invariant_outputs fun records state => ∃ stage, Right urls stage records state
    · exact ⟨.idle, at_initial emptyUrl savedSize offline, ⟨rfl, nofun⟩, rfl, nofun⟩
    · rintro records state after input emitted - ⟨stage, right⟩ ⟨accepted, careful⟩ stepped
      exact right.next accepted careful stepped
  obtain ⟨_, right⟩ := right
  exact right.reported

end Runs

def threeDownloads : List (Input Nat) :=
  [.request (.downloadOfflineURL 1), .runJob succeeding, .runReply, .hasMimeType "text/html",
    .redirectedToURL 2, .distilled "page" [⟨5, [0]⟩] "title", .runJob succeeding,
    .runJob succeeding, .runReply,
    .request (.downloadOfflineURL 3), .runJob succeeding, .runReply, .hasMimeType pdfMimeType,
    .distilled "" [] "", .urlLoadComplete true (some pdfMimeType), .runJob succeeding,
    .runJob succeeding, .runReply,
    .request (.downloadOfflineURL 4), .runJob succeeding, .runReply, .hasMimeType "text/html",
    .distilled "" [] "", .runJob succeeding, .runReply]

/-- A page that was redirected, a PDF file and a page that could not be distilled. -/
theorem run_reports_threeDownloads :
    ∃ records state, Reported numberedUrls records state ∧ state.1.working = false ∧
      records.length = 6 ∧ state.1.offline = [1, 3] := by
  have run : Runs (watchedStep numberedUrls)
      (fun state input => Accepts state.1 input ∧ Careful numberedUrls state input)
      (initialWatched 0 0 []) _ _ :=
    Runs.replay threeDownloads .start (Option.eq_some_of_isSome (by decide))
  exact ⟨_, _, run_reports numberedUrls 0 0 [] _ _ run, by decide⟩

def failing : FileResults Nat := ⟨false, fun _ => 0, 0, 0⟩

/-- A PDF file to which a page was redirected, a page that tells no type after it, and another PDF
file, which cannot be moved. -/
def sharedMembers : List (Input Nat) :=
  [.request (.downloadOfflineURL 1), .runJob succeeding, .runReply, .redirectedToURL 2,
    .hasMimeType pdfMimeType, .distilled "" [] "", .urlLoadComplete true (some pdfMimeType),
    .runJob succeeding, .runJob succeeding, .runReply,
    .request (.downloadOfflineURL 3), .runJob succeeding, .runReply, .distilled "" [] "",
    .urlLoadComplete true (some pdfMimeType), .runJob succeeding, .runJob succeeding, .runReply,
    .request (.downloadOfflineURL 4), .runJob succeeding, .runReply, .redirectedToURL 2,
    .hasMimeType pdfMimeType, .distilled "" [] "", .urlLoadComplete true (some pdfMimeType),
    .runJob succeeding, .runJob failing, .runReply, .runJob succeeding, .runReply]

/-- The first download is reported for another URL.  The second one fetches a file because the
first one was told a type, which alone it would not.  The third one fails and leaves its directory
behind, since that of another URL is deleted. -/
theorem run_sharedMembers :
    ∃ records state, Runs (watchedStep numberedUrls) (fun state input => Accepts state.1 input)
        (initialWatched 0 0 []) records state ∧
      (∃ own report remains, .ended (some ⟨1, own⟩) report remains ∈ records ∧
        report.url = 2) ∧
      (∃ own report remains, .ended (some ⟨3, own⟩) report remains ∈ records ∧
        report.success = .downloadSuccess ∧ solo numberedUrls 0 0 ⟨3, own⟩ = none) ∧
      ∃ own report, .ended (some ⟨4, own⟩) report true ∈ records ∧ report.success = .error := by
  have run : Runs (watchedStep numberedUrls) (fun state input => Accepts state.1 input)
      (initialWatched 0 0 []) _ _ :=
    Runs.replay sharedMembers .start (Option.eq_some_of_isSome (by decide))
  exact ⟨_, _, run, ⟨_, _, _, List.mem_of_getElem? (i := 1) rfl, rfl⟩,
    ⟨_, _, _, List.mem_of_getElem? (i := 3) rfl, rfl, rfl⟩,
    ⟨_, _, List.mem_of_getElem? (i := 5) rfl, rfl⟩⟩

end URLDownloader

end ChromiumIos
