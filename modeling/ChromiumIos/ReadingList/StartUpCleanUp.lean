import ChromiumIos.ReadingList.ProcessedEntries

/-!
# The clean-up at start-up

The directories that the clean-up is to keep are those of the entries that were
processed when the model was loaded.  A page that is saved before the clean-up
has come to its directory is not among them.
-/

namespace ChromiumIos

open Lib

namespace URLDownloader

variable {Url Directory : Type}

/-- The URL whose page is being written, or has been and waits for its completion. -/
def Stage.writes : Stage Url Directory → Option Url
  | writing url _ => some url
  | saved url _ success => if success = .error then none else some url
  | _ => none

def writes (downloader : URLDownloader Url Directory) : Option Url :=
  match downloader.jobs, downloader.replies with
  | .writeDistilledHTML url _ _ :: _, _ => some url
  | .movePDFFile _ :: _, _ => some downloader.originalUrl
  | _, .downloadCompletion _ success :: _ =>
    if success = .error then none else some downloader.originalUrl
  | _, _ => none

def saves (downloader : URLDownloader Url Directory) : Option Url :=
  match downloader.jobs with
  | .saveDistilledHTML url _ _ :: _ => some url
  | .savePDFFile _ :: _ => some downloader.originalUrl
  | _ => none

section Steps

variable {urls : OfflineUrls Url Directory} {stage stage' : Stage Url Directory} {url : Url}
variable {downloader next : URLDownloader Url Directory} {input : Input Url}
variable {effects : List (DownloaderEffect Url Directory)}

theorem At.writes (at_ : At stage downloader) : downloader.writes = stage.writes := by
  unfold URLDownloader.writes
  rw [at_.jobs, at_.replies]
  cases stage with
  | writing _ save =>
    cases save with
    | html => rfl
    | pdf => exact congrArg some (at_.originalUrl rfl)
  | saved url _ _ =>
    have own : downloader.originalUrl = url := at_.originalUrl rfl
    simp [Stage.jobs, Stage.replies, Stage.writes, own]
  | saving _ save => cases save <;> rfl
  | _ => rfl

theorem At.saves {save : Save Url} (at_ : At (.saving url save) downloader) :
    downloader.saves = some url := by
  unfold URLDownloader.saves
  rw [at_.jobs]
  cases save with
  | html => rfl
  | pdf => exact congrArg some (at_.originalUrl rfl)

theorem Starts.writes (starts : Starts stage downloader stage' next effects) :
    stage'.writes = stage.writes := by
  cases starts with
  | busy | empty => rfl
  | next queue =>
    rename_i task rest
    rcases task with ⟨type, other⟩
    cases type <;> rfl

variable [DecidableEq Url] [DecidableEq Directory]

/-- A page is written only after its directory has been made. -/
theorem Moves.writes (moves : Moves urls stage downloader input stage' next effects)
    (written : stage'.writes = some url) :
    stage.writes = some url ∨
      ∃ save results, stage = .saving url save ∧ input = .runJob results ∧
        createDirectory (urls.offlineURLDirectoryID url) results.succeeded downloader.offline ≠
          none := by
  cases moves with
  | request _ starts => exact .inl (starts.writes.symm.trans written)
  | deleted _ _ starts | found _ starts | saved _ _ _ starts | cleared _ _ starts =>
    cases starts.writes.symm.trans written
  | created _ _ _ succeeded =>
    cases written
    simp [succeeded]
  | endless _ _ _ _ => exact .inl written
  | written _ _ _ _ =>
    grind [Stage.writes]
  | _ => cases written

end Steps

end URLDownloader

namespace ReadingListDownloadService

open URLDownloader (At Stage)

variable {Url Directory : Type} [DecidableEq Url] [DecidableEq Directory]

def cleaningKeeps (service : ReadingListDownloadService Url Directory) :
    Option (List Directory) :=
  match service.cleanUp with
  | some (.cleaning processedDirectories _) => some processedDirectories
  | _ => none

variable (urls : OfflineUrls Url Directory) (service : ReadingListDownloadService Url Directory)

/-- Whether a directory is that of a processed entry or of a page that is being written. -/
def Needs (urls : OfflineUrls Url Directory) (service : ReadingListDownloadService Url Directory)
    (directory : Directory) : Prop :=
  ∃ url, urls.offlineURLDirectoryID url = directory ∧
    (service.IsProcessed url ∨ service.urlDownloader.writes = some url)

/-- A success is not reported for another URL than that of the task, unless the clean-up keeps its
directory. -/
def SucceedsCarefully (urls : OfflineUrls Url Directory)
    (service : ReadingListDownloadService Url Directory) : Reply Url Directory → Prop
  | .downloadCompletion completion success =>
    success ≠ .error → completion.url ≠ service.urlDownloader.originalUrl →
      ∀ kept ∈ service.cleaningKeeps, urls.offlineURLDirectoryID completion.url ∈ kept
  | _ => True

/-- While the clean-up goes on, pages are saved only into directories it keeps, and successes are
reported carefully. -/
def SavesCarefully (urls : OfflineUrls Url Directory)
    (service : ReadingListDownloadService Url Directory) : ServiceInput Url Directory → Prop
  | .downloader (.runJob results) =>
    ∀ url ∈ service.urlDownloader.saves, ∀ kept ∈ service.cleaningKeeps,
      URLDownloader.createDirectory (urls.offlineURLDirectoryID url) results.succeeded
          service.urlDownloader.offline ≠ none →
        urls.offlineURLDirectoryID url ∈ kept
  | .downloader .runReply =>
    ∀ reply ∈ service.urlDownloader.replies.head?, service.SucceedsCarefully urls reply
  | _ => True

/-- While the clean-up goes on, it keeps what is needed. -/
structure Guarded (urls : OfflineUrls Url Directory) (stage : Stage Url Directory)
    (service : ReadingListDownloadService Url Directory) : Prop where
  at_ : At stage service.urlDownloader
  unloaded : service.loaded = false → stage = .idle
  processed : ∀ kept ∈ service.cleaningKeeps, ∀ url, service.IsProcessed url →
    urls.offlineURLDirectoryID url ∈ kept
  writes : ∀ kept ∈ service.cleaningKeeps, ∀ url, stage.writes = some url →
    urls.offlineURLDirectoryID url ∈ kept

section Steps

variable {urls : OfflineUrls Url Directory} {stage : Stage Url Directory} {kept : List Directory}
variable {service after : ReadingListDownloadService Url Directory}
variable {input : ServiceInput Url Directory} {outputs : List (ServiceOutput Url Directory)}

omit [DecidableEq Url] [DecidableEq Directory] in
theorem mem_cleaningKeeps : kept ∈ service.cleaningKeeps ↔
    ∃ unprocessed, service.cleanUp = some (.cleaning kept unprocessed) := by
  unfold cleaningKeeps
  grind

omit [DecidableEq Url] [DecidableEq Directory] in
theorem cleaningKeeps_of (cleanUp : ∀ {processed unprocessed},
      after.cleanUp = some (.cleaning processed unprocessed) →
        service.cleanUp = some (.cleaning processed unprocessed))
    (mem : kept ∈ after.cleaningKeeps) : kept ∈ service.cleaningKeeps := by
  grind [cleaningKeeps]

omit [DecidableEq Directory] in
/-- The directory of a processed entry is among those of the processed entries. -/
theorem mem_processedDirectories {url : Url} (processed : service.IsProcessed url) :
    urls.offlineURLDirectoryID url ∈ service.processedDirectories urls := by
  obtain ⟨entry, found, isProcessed⟩ := Option.map_eq_some_iff.mp processed
  have mem : entry ∈ service.entries := List.mem_of_find?_eq_some found
  grind [processedDirectories, url_of_getEntryByURL found]

omit [DecidableEq Directory] in
theorem Guarded.keeps (guarded : Guarded urls stage service) (keeps : Keeps service after) :
    Guarded urls stage after where
  at_ := keeps.urlDownloader ▸ guarded.at_
  unloaded unloaded := guarded.unloaded (keeps.loaded ▸ unloaded)
  processed kept mem url processed :=
    guarded.processed kept (cleaningKeeps_of keeps.cleanUp mem) url
      ((keeps.processed url).mp processed)
  writes kept mem := guarded.writes kept (cleaningKeeps_of keeps.cleanUp mem)

theorem Guarded.requested {request : Request Url} (guarded : Guarded urls stage service)
    (loaded : service.loaded = true) (requested : Requested urls request service after) :
    ∃ stage', Guarded urls stage' after := by
  obtain ⟨urlDownloader, _, stepped, keeps⟩ := requested
  have accepted : service.urlDownloader.Accepts (.request request) := trivial
  obtain ⟨stage', moves, atNext⟩ := guarded.at_.moves_of_step accepted stepped
  have moved : Guarded urls stage' { service with urlDownloader } := by
    refine ⟨atNext, fun unloaded => ?_, guarded.processed, fun kept mem url written => ?_⟩
    · cases loaded.symm.trans unloaded
    · rcases moves.writes written with before | ⟨_, _, _, isJob, _⟩
      · exact guarded.writes kept mem url before
      · cases isJob
  exact ⟨stage', moved.keeps keeps⟩

/-- What the downloader writes after an input of its own that is careful. -/
theorem Guarded.writes_after {input : URLDownloader.Input Url}
    {urlDownloader : URLDownloader Url Directory}
    {effects : List (DownloaderEffect Url Directory)} {stage' : Stage Url Directory} {url : Url}
    (guarded : Guarded urls stage service)
    (moves : URLDownloader.Moves urls stage service.urlDownloader input stage' urlDownloader
      effects)
    (careful : SavesCarefully urls service (.downloader input))
    (mem : kept ∈ service.cleaningKeeps) (written : stage'.writes = some url) :
    urls.offlineURLDirectoryID url ∈ kept := by
  rcases moves.writes written with before | ⟨save, results, rfl, rfl, created⟩
  · exact guarded.writes kept mem url before
  · exact careful url guarded.at_.saves kept mem created

/-- What is reported carefully as a success has its directory kept. -/
theorem Guarded.succeeded {report : DownloadReport Url Directory}
    (guarded : Guarded urls stage service)
    (careful : SavesCarefully urls service (.downloader .runReply))
    (ends : URLDownloader.Ends service.urlDownloader stage report)
    (real : realSuccessValue report ≠ .error) (mem : kept ∈ service.cleaningKeeps) :
    urls.offlineURLDirectoryID report.url ∈ kept := by
  cases ends with
  | found url => exact absurd (if_pos rfl) real
  | cleared url completion => exact absurd (ite_self _) real
  | saved url completion succeeded =>
    rename_i success
    have running : service.urlDownloader.originalUrl = url := guarded.at_.originalUrl rfl
    by_cases own : completion.url = service.urlDownloader.originalUrl
    · simpa [URLDownloader.report, own, running]
        using guarded.writes kept mem url (if_neg succeeded)
    · exact careful (.downloadCompletion completion success)
        (congrArg List.head? guarded.at_.replies) succeeded own kept mem

/-- Every careful input leaves the clean-up what it needs. -/
theorem Guarded.moves (guarded : Guarded urls stage service)
    (moves : Moves urls service input after outputs)
    (careful : SavesCarefully urls service input) : ∃ stage', Guarded urls stage' after := by
  cases moves with
  | keep input keeps => exact ⟨stage, guarded.keeps keeps⟩
  | load entries unloaded =>
    cases guarded.unloaded unloaded
    refine ⟨.idle, guarded.at_, fun _ => rfl, ?_, nofun⟩
    rintro kept same url processed
    cases same
    exact mem_processedDirectories processed
  | cancel input url loaded requested | download input url loaded unprocessed requested =>
    exact guarded.requested loaded requested
  | remove url loaded requested =>
    obtain ⟨stage', guardedAfter⟩ := guarded.requested loaded requested
    refine ⟨stage', guardedAfter.at_, guardedAfter.unloaded, ?_, guardedAfter.writes⟩
    exact fun kept mem other processed =>
      guardedAfter.processed kept mem other (isProcessed_removeEntry.mp processed).1
  | clean directory deleted cleaning unkept =>
    exact ⟨stage, guarded.at_.withOffline _, guarded.unloaded, guarded.processed,
      guarded.writes⟩
  | own input accepted isOwn stepped silent keeps =>
    rename_i urlDownloader effects
    obtain ⟨stage', moves, atNext⟩ := guarded.at_.moves_of_step accepted stepped
    have moved : Guarded urls stage' { service with urlDownloader } := by
      refine ⟨atNext, fun unloaded => ?_, guarded.processed, ?_⟩
      · cases guarded.unloaded unloaded
        cases moves.notOwn.symm.trans isOwn
      · exact fun kept mem url => guarded.writes_after moves careful mem
    exact ⟨stage', moved.keeps keeps⟩
  | report input accepted stepped loud settles =>
    obtain ⟨stage', moves, atNext⟩ := guarded.at_.moves_of_step accepted stepped
    rcases moves.reports with silent | ⟨reported, rest, rfl, same, ends, starts⟩
    · cases silent.symm.trans loud
    · cases same.symm.trans loud
      refine ⟨stage', settles.urlDownloader ▸ atNext, fun unloaded => ?_, ?_, ?_⟩
      · cases guarded.unloaded (settles.loaded.symm.trans unloaded)
        cases ends
      · intro kept mem url processed
        have cleaning : kept ∈ service.cleaningKeeps := cleaningKeeps_of settles.cleanUp mem
        have processed := (settles.processed url).mp processed
        split at processed
        · exact guarded.processed kept cleaning url processed.1
        · next real =>
            rcases processed with before | ⟨rfl, -⟩
            · exact guarded.processed kept cleaning url before
            · exact guarded.succeeded careful ends real cleaning
      · exact fun kept mem url =>
          guarded.writes_after moves careful (cleaningKeeps_of settles.cleanUp mem)

end Steps

/-- While pages are saved and reported carefully, the clean-up never deletes the
directory of a processed entry or of a page that is being written. -/
theorem run_cleanUp (urls : OfflineUrls Url Directory) (emptyUrl : Url) (savedSize : Int)
    (offline : List Directory) (hadConnection : Bool)
    (outputs emitted : List (ServiceOutput Url Directory))
    (state after : ReadingListDownloadService Url Directory)
    (input : ServiceInput Url Directory)
    (run : Runs (step urls)
      (fun service input => Accepts service input ∧ SavesCarefully urls service input)
      (initial emptyUrl savedSize offline hadConnection) outputs state)
    (accepted : Accepts state input) (stepped : step urls state input = some (after, emitted))
    (directory : Directory) (cleanedUp : .cleanedUp directory ∈ emitted) :
    ¬ Needs urls state directory := by
  have guarded : ∃ stage, Guarded urls stage state := by
    apply run.invariant fun service => ∃ stage, Guarded urls stage service
    · exact ⟨.idle, URLDownloader.at_initial emptyUrl savedSize offline, fun _ => rfl, nofun,
        nofun⟩
    · rintro service after input outputs ⟨stage, guarded⟩ ⟨accepted, careful⟩ stepped
      exact guarded.moves (moves_of_step guarded.at_ accepted stepped) careful
  obtain ⟨_, guarded⟩ := guarded
  cases moves_of_step guarded.at_ accepted stepped with
  | clean _ _ cleaning unkept =>
    cases List.mem_singleton.mp cleanedUp
    have mem := mem_cleaningKeeps.mpr ⟨_, cleaning⟩
    rintro ⟨url, rfl, processed | written⟩
    · exact unkept (guarded.processed _ mem url processed)
    · rw [guarded.at_.writes] at written
      exact unkept (guarded.writes _ mem url written)
  | remove => cases List.mem_singleton.mp cleanedUp
  | _ => cases cleanedUp

instance (reply : Reply Url Directory) : Decidable (service.SucceedsCarefully urls reply) :=
  match reply with
  | .downloadCompletion _ _ =>
    inferInstanceAs (Decidable (_ → _ ≠ _ → ∀ _ ∈ service.cleaningKeeps, _ ∈ _))
  | .postDelete _ _ | .downloadURL _ _ | .deleteCompletion _ _ => isTrue trivial

instance (input : ServiceInput Url Directory) : Decidable (SavesCarefully urls service input) :=
  match input with
  | .downloader (.runJob _) =>
    inferInstanceAs (Decidable (∀ _ ∈ service.urlDownloader.saves,
      ∀ _ ∈ service.cleaningKeeps, _ ≠ none → _ ∈ _))
  | .downloader .runReply =>
    inferInstanceAs (Decidable (∀ _ ∈ service.urlDownloader.replies.head?, _))
  | .downloader (.request _) | .downloader (.hasMimeType _) | .downloader (.redirectedToURL _)
  | .downloader (.distilled _ _ _) | .downloader (.urlLoadComplete _ _) | .modelLoaded _
  | .didAddEntry _ _ | .didMoveEntry _ _ | .willRemoveEntry _ | .failedDownloads _ _
  | .runDelayedTask _ _ | .connectionChanged _ | .cleanUpFile _ _ | .cleanUpEnds
  | .cleanUpReply => isTrue trivial

/-- The clean-up deletes what belongs to no entry, while a page is distilled. -/
theorem run_cleanUp_leftOver :
    ∃ state after, step URLDownloader.numberedUrls state (.cleanUpFile 2 true) =
        some (after, [.cleanedUp 2]) ∧ state.IsProcessed 1 ∧
      after.urlDownloader.offline = [1] ∧ ¬ Needs URLDownloader.numberedUrls state 2 := by
  have run : Runs (step URLDownloader.numberedUrls)
      (fun service input => Accepts service input ∧
        SavesCarefully URLDownloader.numberedUrls service input)
      (initial 0 0 [1, 2] true) _ _ :=
    Runs.replay [.modelLoaded [⟨1, .processed, none, false, 0⟩], .didAddEntry 3 false,
      .runDelayedTask 3 .connectionWifi, .downloader (.runJob URLDownloader.succeeding),
      .downloader .runReply] .start (Option.eq_some_of_isSome (by decide))
  have unneeded := run_cleanUp URLDownloader.numberedUrls 0 0 [1, 2] true _ [.cleanedUp 2] _ _
    (.cleanUpFile 2 true) run (by decide) rfl 2 (by decide)
  exact ⟨_, _, rfl, by decide, by decide, unneeded⟩

/-- A page that was added and downloaded after the model was loaded is deleted. -/
theorem run_addedBeforeCleanUp :
    Runs (step URLDownloader.numberedUrls) Accepts (initial 0 0 [] true) [] downloaded ∧
      Accepts downloaded (.cleanUpFile 1 true) ∧
      Needs URLDownloader.numberedUrls downloaded 1 ∧
      ∃ after, step URLDownloader.numberedUrls downloaded (.cleanUpFile 1 true) =
          some (after, [.cleanedUp 1]) ∧
        after.IsProcessed 1 ∧ 1 ∉ after.urlDownloader.offline :=
  ⟨Runs.replay added .start rfl, by decide, ⟨1, rfl, .inl (by decide)⟩, _, rfl, by decide,
    by decide⟩

end ReadingListDownloadService

end ChromiumIos
