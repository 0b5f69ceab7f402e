import ChromiumIos.ReadingList.DownloadService

/-!
# What the inputs of the download service do

For the processed entries and for the downloader an input of the service does one
of a few things: it makes a request, it lets the downloader go on, which may
report a download, it loads the model or cleans a directory up, or it does
nothing to them.  `Moves` says so once for all inputs.
-/

namespace ChromiumIos

open Lib

namespace ReadingListDownloadService

variable {Url Directory : Type} [DecidableEq Url]
variable (service : ReadingListDownloadService Url Directory)

section Entries

variable {service after : ReadingListDownloadService Url Directory} {url other : Url}
variable {update : ReadingListEntry Url Directory → ReadingListEntry Url Directory}

def IsProcessed (service : ReadingListDownloadService Url Directory) (url : Url) : Prop :=
  service.distilledState url = some .processed
deriving Decidable

theorem url_of_getEntryByURL {entry : ReadingListEntry Url Directory}
    (found : service.getEntryByURL url = some entry) : entry.url = url := by
  have holds := List.find?_some found
  exact of_decide_eq_true holds

variable (keeps : ∀ entry, (update entry).url = entry.url)
include keeps

/-- An update changes one entry only. -/
theorem getEntryByURL_updateEntry :
    (service.updateEntry url update).getEntryByURL other =
      (service.getEntryByURL other).map fun entry =>
        if entry.url = url then update entry else entry := by
  have same : ((fun entry : ReadingListEntry Url Directory => decide (entry.url = other)) ∘
      fun entry => if entry.url = url then update entry else entry) =
        fun entry => decide (entry.url = other) := by
    grind
  simp only [getEntryByURL, updateEntry, List.find?_map, same]

theorem distilledState_updateEntry_of_ne (differs : other ≠ url) :
    (service.updateEntry url update).distilledState other = service.distilledState other := by
  unfold distilledState
  rw [getEntryByURL_updateEntry keeps]
  cases found : service.getEntryByURL other with
  | none => rfl
  | some entry =>
    have notOwn : entry.url ≠ url := url_of_getEntryByURL found ▸ differs
    rw [Option.map_some, if_neg notOwn]

theorem distilledState_updateEntry_self :
    (service.updateEntry url update).distilledState url =
      (service.getEntryByURL url).map fun entry => (update entry).distilledState := by
  unfold distilledState
  rw [getEntryByURL_updateEntry keeps]
  cases found : service.getEntryByURL url with
  | none => rfl
  | some _ =>
    simp [if_pos (url_of_getEntryByURL found)]

/-- An update of other data leaves the states as they are. -/
theorem isProcessed_updateEntry
    (keepsState : ∀ entry, (update entry).distilledState = entry.distilledState) :
    (service.updateEntry url update).IsProcessed other ↔ service.IsProcessed other := by
  unfold IsProcessed
  by_cases own : other = url
  · subst own
    rw [distilledState_updateEntry_self keeps]
    simp only [keepsState]
    exact Iff.rfl
  · rw [distilledState_updateEntry_of_ne keeps own]

omit keeps

theorem isProcessed_setEntryDistilledState {state : DistillationState}
    (differs : state ≠ .processed) :
    (service.setEntryDistilledState url state).IsProcessed other ↔
      service.IsProcessed other ∧ other ≠ url := by
  have keeps (entry : ReadingListEntry Url Directory) :
      { entry with distilledState := state }.url = entry.url := rfl
  unfold IsProcessed setEntryDistilledState
  by_cases own : other = url
  · simp [distilledState_updateEntry_self keeps, own, differs]
  · rw [distilledState_updateEntry_of_ne keeps own, and_iff_left own]

theorem isProcessed_setEntryDistilledInfo {info : DistilledInfo Url Directory} :
    (service.setEntryDistilledInfo url info).IsProcessed other ↔
      service.IsProcessed other ∨ other = url ∧ (service.getEntryByURL url).isSome := by
  have keeps (entry : ReadingListEntry Url Directory) :
      { entry with distilledState := .processed, distilledInfo := some info }.url = entry.url := rfl
  unfold IsProcessed setEntryDistilledInfo
  by_cases own : other = url
  · subst own
    rw [distilledState_updateEntry_self keeps]
    unfold distilledState
    cases service.getEntryByURL other <;> simp
  · rw [distilledState_updateEntry_of_ne keeps own]
    simp [own]

theorem isProcessed_addEntry {isRead : Bool} :
    (service.addEntry url isRead).IsProcessed other ↔ service.IsProcessed other := by
  grind [IsProcessed, addEntry, distilledState, getEntryByURL]

theorem isProcessed_removeEntry :
    (service.removeEntry url).IsProcessed other ↔ service.IsProcessed other ∧ other ≠ url := by
  unfold IsProcessed distilledState
  by_cases own : other = url
  · subst own
    have gone : (service.removeEntry other).getEntryByURL other = none := by
      simp [getEntryByURL, removeEntry]
    simp [gone]
  · have kept : (service.removeEntry url).getEntryByURL other = service.getEntryByURL other := by
      unfold getEntryByURL removeEntry
      grind
    rw [kept, and_iff_left own]

end Entries

/-! ## Moves -/

/-- What is neither a request nor a report: the downloader and the processed entries stay. -/
structure Keeps (service after : ReadingListDownloadService Url Directory) : Prop where
  urlDownloader : after.urlDownloader = service.urlDownloader
  loaded : after.loaded = service.loaded
  processed : ∀ url, after.IsProcessed url ↔ service.IsProcessed url
  /-- A clean-up that is going on was going on before. -/
  cleanUp : ∀ {processed unprocessed}, after.cleanUp = some (.cleaning processed unprocessed) →
    service.cleanUp = some (.cleaning processed unprocessed)

theorem Keeps.refl : Keeps service service :=
  ⟨rfl, rfl, fun _ => Iff.rfl, id⟩

theorem Keeps.trans {first middle last : ReadingListDownloadService Url Directory}
    (left : Keeps first middle) (right : Keeps middle last) : Keeps first last :=
  ⟨right.urlDownloader.trans left.urlDownloader, right.loaded.trans left.loaded,
    fun url => (right.processed url).trans (left.processed url),
    fun cleaning => left.cleanUp (right.cleanUp cleaning)⟩

theorem Keeps.updateEntry {url : Url}
    {update : ReadingListEntry Url Directory → ReadingListEntry Url Directory}
    (keeps : ∀ entry, (update entry).url = entry.url)
    (keepsState : ∀ entry, (update entry).distilledState = entry.distilledState) :
    Keeps service (service.updateEntry url update) :=
  ⟨rfl, rfl, fun _ => isProcessed_updateEntry keeps keepsState, id⟩

theorem Keeps.addEntry (service : ReadingListDownloadService Url Directory) (url : Url)
    (isRead : Bool) : Keeps service (service.addEntry url isRead) := by
  have processed other : (service.addEntry url isRead).IsProcessed other ↔ _ :=
    isProcessed_addEntry
  unfold ReadingListDownloadService.addEntry at *
  split
  · exact .refl service
  · next found =>
      rw [found] at processed
      exact ⟨rfl, rfl, processed, id⟩

def Requested (urls : OfflineUrls Url Directory) [DecidableEq Directory] (request : Request Url)
    (service after : ReadingListDownloadService Url Directory) : Prop :=
  ∃ urlDownloader effects,
    URLDownloader.step urls service.urlDownloader (.request request) =
        some (urlDownloader, effects) ∧
      Keeps { service with urlDownloader } after

variable [DecidableEq Directory]

/-- What a report does to the service. -/
structure Settles (report : DownloadReport Url Directory)
    (service after : ReadingListDownloadService Url Directory) : Prop where
  urlDownloader : after.urlDownloader = service.urlDownloader
  loaded : after.loaded = service.loaded
  processed : ∀ url, after.IsProcessed url ↔
    if realSuccessValue report = .error then service.IsProcessed url ∧ url ≠ report.url
    else service.IsProcessed url ∨ url = report.url ∧ (service.getEntryByURL report.url).isSome
  cleanUp : ∀ {processed unprocessed}, after.cleanUp = some (.cleaning processed unprocessed) →
    service.cleanUp = some (.cleaning processed unprocessed)

/-- What an input does. -/
inductive Moves (urls : OfflineUrls Url Directory) :
    ReadingListDownloadService Url Directory → ServiceInput Url Directory →
      ReadingListDownloadService Url Directory → List (ServiceOutput Url Directory) → Prop where
  | keep {service after : ReadingListDownloadService Url Directory}
      (input : ServiceInput Url Directory) (keeps : Keeps service after) :
      Moves urls service input after []
  | load {service : ReadingListDownloadService Url Directory}
      (entries : List (ReadingListEntry Url Directory)) (unloaded : service.loaded = false) :
      Moves urls service (.modelLoaded entries)
        { service with
          loaded := true
          entries
          cleanUp := some (.cleaning (processedDirectories urls { service with entries })
            (unprocessedEntries { service with entries })) } []
  | cancel {service after : ReadingListDownloadService Url Directory}
      (input : ServiceInput Url Directory) (url : Url) (loaded : service.loaded = true)
      (requested : Requested urls (.cancelDownloadOfflineURL url) service after) :
      Moves urls service input after []
  | download {service after : ReadingListDownloadService Url Directory}
      (input : ServiceInput Url Directory) (url : Url) (loaded : service.loaded = true)
      (unprocessed : ¬ service.IsProcessed url)
      (requested : Requested urls (.downloadOfflineURL url) service after) :
      Moves urls service input after []
  | remove {service middle : ReadingListDownloadService Url Directory} (url : Url)
      (loaded : service.loaded = true)
      (requested : Requested urls (.removeOfflineURL url) service middle) :
      Moves urls service (.willRemoveEntry url) (middle.removeEntry url) [.removed url]
  | clean {service : ReadingListDownloadService Url Directory} (directory : Directory)
      (deleted : Bool) {processed : List Directory} {unprocessed : List Url}
      (cleaning : service.cleanUp = some (.cleaning processed unprocessed))
      (unkept : directory ∉ processed) :
      Moves urls service (.cleanUpFile directory deleted)
        { service with
          urlDownloader := { service.urlDownloader with
            offline := URLDownloader.deleteDirectory directory deleted
              service.urlDownloader.offline } } [.cleanedUp directory]
  | own {service after : ReadingListDownloadService Url Directory}
      (input : URLDownloader.Input Url) (accepted : service.urlDownloader.Accepts input)
      (isOwn : input.isOwn) {urlDownloader : URLDownloader Url Directory}
      {effects : List (DownloaderEffect Url Directory)}
      (stepped : URLDownloader.step urls service.urlDownloader input =
        some (urlDownloader, effects))
      (silent : URLDownloader.reports effects = [])
      (keeps : Keeps { service with urlDownloader } after) :
      Moves urls service (.downloader input) after []
  | report {service after : ReadingListDownloadService Url Directory}
      (input : URLDownloader.Input Url) (accepted : service.urlDownloader.Accepts input)
      {urlDownloader : URLDownloader Url Directory}
      {effects : List (DownloaderEffect Url Directory)} {report : DownloadReport Url Directory}
      (stepped : URLDownloader.step urls service.urlDownloader input =
        some (urlDownloader, effects))
      (loud : URLDownloader.reports effects = [report])
      (settles : Settles report { service with urlDownloader } after) :
      Moves urls service (.downloader input) after []

/-! ## Every input is one of these -/

section Steps

variable {urls : OfflineUrls Url Directory} {url : Url} {request : Request Url}
variable {service after : ReadingListDownloadService Url Directory}

omit [DecidableEq Directory] in
theorem keeps_scheduleDownloadEntry (scheduled : service.scheduleDownloadEntry url = some after) :
    Keeps service after := by
  obtain ⟨-, scheduled⟩ := dcheck_then scheduled
  split at scheduled
  · cases scheduled
    exact .refl service
  · split at scheduled
    · cases scheduled
      exact .refl service
    · cases scheduled
      exact ⟨rfl, rfl, fun _ => Iff.rfl, id⟩

omit [DecidableEq Directory] in
theorem keeps_scheduleDownloadEntries {entries : List Url}
    (scheduled : service.scheduleDownloadEntries entries = some after) : Keeps service after := by
  refine foldlM_invariant scheduled (Keeps.refl service) ?_
  intro middle entry last keeps scheduled
  exact keeps.trans (keeps_scheduleDownloadEntry scheduled)

theorem requested_of_request (requested : service.request urls request = some after) :
    Requested urls request service after := by
  obtain ⟨⟨urlDownloader, effects⟩, stepped, result⟩ := bind_eq_some requested
  cases result
  exact ⟨urlDownloader, effects, stepped, .refl _⟩

theorem Keeps.requested {middle : ReadingListDownloadService Url Directory}
    (keeps : Keeps service middle) (requested : Requested urls request middle after) :
    Requested urls request service after := by
  obtain ⟨urlDownloader, effects, stepped, kept⟩ := requested
  rw [keeps.urlDownloader] at stepped
  refine ⟨urlDownloader, effects, stepped, Keeps.trans ?_ kept⟩
  exact ⟨rfl, keeps.loaded, keeps.processed, keeps.cleanUp⟩

theorem requested_startDownload (unprocessed : ¬ service.IsProcessed url)
    (started : service.startDownload urls url = some after) :
    Requested urls (.downloadOfflineURL url) service after := by
  have keeps : Keeps service (service.setEntryDistilledState url .processing) := by
    refine ⟨rfl, rfl, fun other => ?_, id⟩
    have differs : DistillationState.processing ≠ .processed := nofun
    rw [isProcessed_setEntryDistilledState differs, and_iff_left_iff_imp]
    grind
  exact keeps.requested (requested_of_request started)

variable {connection : ConnectionType}

theorem downloadEntry_cases (downloaded : service.downloadEntry urls url connection = some after) :
    Keeps service after ∨ service.loaded = true ∧ ¬ service.IsProcessed url ∧
      Requested urls (.downloadOfflineURL url) service after := by
  obtain ⟨loaded, downloaded⟩ := dcheck_then downloaded
  split at downloaded
  case h_1 =>
    cases downloaded
    exact .inl (.refl service)
  case h_2 entry found =>
    have own := url_of_getEntryByURL found
    rw [own] at downloaded
    have start : ¬ NeedsNoDownload entry → service.startDownload urls url = some after →
        Keeps service after ∨ service.loaded = true ∧ ¬ service.IsProcessed url ∧
          Requested urls (.downloadOfflineURL url) service after := by
      intro needed started
      have unprocessed : ¬ service.IsProcessed url := by
        intro processed
        unfold IsProcessed distilledState at processed
        rw [found] at processed
        exact needed (.inr (.inl (Option.some.inj processed)))
      grind [requested_startDownload]
    split at downloaded
    case isTrue =>
      cases downloaded
      exact .inl (.refl service)
    case isFalse needed =>
      split at downloaded
      case isTrue =>
        cases downloaded
        exact .inl ⟨rfl, rfl, fun _ => Iff.rfl, id⟩
      case isFalse =>
        split at downloaded
        case isTrue => exact start needed downloaded
        case isFalse =>
          split at downloaded
          case isTrue =>
            split at downloaded
            case isTrue => exact start needed downloaded
            case isFalse =>
              cases downloaded
              exact .inl ⟨rfl, rfl, fun _ => Iff.rfl, id⟩
          case isFalse =>
            cases downloaded
            exact .inl (.refl service)

theorem processNewEntry_cases (processed : service.processNewEntry urls url = some after) :
    Keeps service after ∨ Requested urls (.cancelDownloadOfflineURL url) service after := by
  grind [processNewEntry, requested_of_request, keeps_scheduleDownloadEntry]

omit [DecidableEq Directory] in
theorem keeps_onConnectionChanged (changed : service.onConnectionChanged connection = some after) :
    Keeps service after := by
  unfold onConnectionChanged at changed
  split at changed
  · cases changed
    exact ⟨rfl, rfl, fun _ => Iff.rfl, id⟩
  · obtain ⟨scheduled, reconnected, changed⟩ := bind_eq_some changed
    have keeps : Keeps service scheduled := by
      unfold reconnect at reconnected
      split at reconnected
      · cases reconnected
        exact .refl service
      · have connected : Keeps service { service with hadConnection := true } :=
          ⟨rfl, rfl, fun _ => Iff.rfl, id⟩
        exact connected.trans (keeps_scheduleDownloadEntries reconnected)
    split at changed
    · exact keeps.trans (keeps_scheduleDownloadEntries changed)
    · cases changed
      exact keeps

theorem settles_onDownloadEnd {report : DownloadReport Url Directory}
    (ended : service.onDownloadEnd report = some after) : Settles report service after := by
  have failed {state : DistillationState} (differs : state ≠ .processed)
      (real : realSuccessValue report = .error)
      (keeps : Keeps (service.setEntryDistilledState report.url state) after) :
      Settles report service after := by
    refine ⟨keeps.urlDownloader, keeps.loaded, fun url => ?_, keeps.cleanUp⟩
    rw [if_pos real, keeps.processed, isProcessed_setEntryDistilledState differs]
  have succeeded (real : realSuccessValue report ≠ .error)
      (same : after = service.setEntryDistilledInfo report.url
        ⟨report.path, report.distilledUrl, report.size⟩) : Settles report service after := by
    subst same
    refine ⟨rfl, rfl, fun url => ?_, id⟩
    rw [if_neg real, isProcessed_setEntryDistilledInfo]
  obtain ⟨-, ended⟩ := dcheck_then ended
  split at ended
  case h_1 real =>
    cases ended
    grind
  case h_2 real =>
    cases ended
    grind
  case h_3 real =>
    split at ended
    case h_1 =>
      split at ended
      case isTrue =>
        grind [keeps_scheduleDownloadEntry]
      case isFalse =>
        cases ended
        have differs : DistillationState.distillationError ≠ .processed := nofun
        exact failed differs real (.refl _)
    case h_2 =>
      cases ended
      have differs : DistillationState.distillationError ≠ .processed := nofun
      exact failed differs real (.refl _)

/-- Only the reports among the effects matter. -/
theorem foldlM_onDownloaderEffect (effects : List (DownloaderEffect Url Directory))
    (service : ReadingListDownloadService Url Directory) :
    effects.foldlM onDownloaderEffect service =
      (URLDownloader.reports effects).foldlM onDownloadEnd service := by
  induction effects generalizing service with
  | nil => rfl
  | cons _ _ _ =>
    grind [onDownloaderEffect, URLDownloader.reports]

theorem Moves.ofProcessNewEntry {middle : ReadingListDownloadService Url Directory}
    (input : ServiceInput Url Directory) (loaded : service.loaded = true)
    (keeps : Keeps service middle) (processed : middle.processNewEntry urls url = some after) :
    Moves urls service input after [] := by
  rcases processNewEntry_cases processed with kept | requested
  · exact .keep _ (keeps.trans kept)
  · exact .cancel _ url loaded (keeps.requested requested)

/-- Whatever an input has done, it is one of the moves. -/
theorem moves_of_step {stage : URLDownloader.Stage Url Directory}
    {input : ServiceInput Url Directory} {outputs : List (ServiceOutput Url Directory)}
    (at_ : URLDownloader.At stage service.urlDownloader) (accepted : Accepts service input)
    (stepped : step urls service input = some (after, outputs)) :
    Moves urls service input after outputs := by
  cases input with
  | modelLoaded entries =>
    cases stepped
    exact .load entries accepted.1
  | didAddEntry url isRead =>
    obtain ⟨last, processed, result⟩ := Option.map_eq_some_iff.mp stepped
    cases result
    exact .ofProcessNewEntry _ accepted (.addEntry service url isRead) processed
  | didMoveEntry url isRead =>
    obtain ⟨last, processed, result⟩ := Option.map_eq_some_iff.mp stepped
    cases result
    have keeps : Keeps service (service.updateEntry url fun entry => { entry with isRead }) :=
      .updateEntry service (fun _ => rfl) fun _ => rfl
    exact .ofProcessNewEntry _ accepted keeps processed
  | willRemoveEntry url =>
    obtain ⟨-, stepped⟩ := dcheck_then stepped
    obtain ⟨_, removed, result⟩ := bind_eq_some stepped
    obtain ⟨-, removed⟩ := dcheck_then removed
    cases result
    exact .remove url accepted.1 (requested_of_request removed)
  | failedDownloads _ _ =>
    cases stepped
    exact .keep _ (.updateEntry service (fun _ => rfl) fun _ => rfl)
  | runDelayedTask url _ =>
    obtain ⟨last, downloaded, result⟩ := Option.map_eq_some_iff.mp stepped
    cases result
    let run := { service with delayedTasks := service.delayedTasks.erase url }
    have keeps : Keeps service run := ⟨rfl, rfl, fun _ => Iff.rfl, id⟩
    rcases downloadEntry_cases downloaded with kept | ⟨loaded, unprocessed, requested⟩
    · exact .keep _ (keeps.trans kept)
    · exact .download _ url loaded unprocessed (keeps.requested requested)
  | connectionChanged _ =>
    obtain ⟨last, changed, result⟩ := Option.map_eq_some_iff.mp stepped
    cases result
    exact .keep _ (keeps_onConnectionChanged changed)
  | cleanUpFile directory deleted =>
    unfold step cleanUpFile at stepped
    dsimp only at stepped
    split at stepped
    case h_1 processed unprocessed cleaning =>
      split at stepped
      case isTrue =>
        cases stepped
        exact .keep _ (.refl service)
      case isFalse unkept =>
        cases stepped
        exact .clean directory deleted cleaning unkept
    case h_2 => cases stepped
  | cleanUpEnds =>
    unfold step at stepped
    dsimp only at stepped
    split at stepped
    · cases stepped
      exact .keep _ ⟨rfl, rfl, fun _ => Iff.rfl, nofun⟩
    · cases stepped
  | cleanUpReply =>
    unfold step at stepped
    dsimp only at stepped
    split at stepped
    · obtain ⟨last, scheduled, result⟩ := Option.map_eq_some_iff.mp stepped
      cases result
      have ended : Keeps service { service with cleanUp := none } :=
        ⟨rfl, rfl, fun _ => Iff.rfl, nofun⟩
      exact .keep _ (ended.trans (keeps_scheduleDownloadEntries scheduled))
    · cases stepped
  | downloader input =>
    obtain ⟨⟨_, _⟩, moved, stepped⟩ := bind_eq_some stepped
    obtain ⟨_, updated, result⟩ := bind_eq_some stepped
    cases result
    rw [foldlM_onDownloaderEffect] at updated
    obtain ⟨_, moves, -⟩ := at_.moves_of_step accepted.2 moved
    rcases moves.reports with silent | ⟨report, rest, -, loud, -⟩
    · rw [silent] at updated
      cases updated
      exact .own input accepted.2 accepted.1 moved silent (.refl _)
    · rw [loud] at updated
      obtain ⟨_, reported, result⟩ := bind_eq_some updated
      cases result
      exact .report input accepted.2 moved loud (settles_onDownloadEnd reported)

end Steps

end ReadingListDownloadService

end ChromiumIos
