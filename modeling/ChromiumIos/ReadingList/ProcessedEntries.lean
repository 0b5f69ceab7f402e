import ChromiumIos.ReadingList.ServiceMoves

/-!
# Processed entries

An entry that is processed is not downloaded again, so that no completion can
say that its download failed.  This is so only if no further download of a URL is
in the queue when one has succeeded: the downloader takes a download out of the
queue when it starts it, and then lets another one of the same URL in, which
finds the page on disk and is reported without a path.
-/

namespace ChromiumIos

open Lib

namespace URLDownloader

variable {Url Directory : Type}

def NoDownload (url : Url) (stage : Stage Url Directory)
    (downloader : URLDownloader Url Directory) : Prop :=
  (.download, url) ∉ downloader.tasks ∧ stage.download ≠ some url

def Stage.HasPath : Stage Url Directory → Prop
  | saved _ completion _ => completion.path ≠ .empty
  | _ => True

section Steps

variable {urls : OfflineUrls Url Directory} {stage stage' : Stage Url Directory} {url : Url}
variable {downloader next : URLDownloader Url Directory} {input : Input Url}
variable {effects : List (DownloaderEffect Url Directory)}

theorem NoDownload.starts (noDownload : NoDownload url stage downloader)
    (starts : Starts stage downloader stage' next effects) : NoDownload url stage' next := by
  cases starts with
  | busy inProgress | empty none => exact noDownload
  | next queue =>
    rename_i task rest
    obtain ⟨unqueued, -⟩ := noDownload
    rw [queue] at unqueued
    obtain ⟨notFirst, unqueued⟩ := List.ne_and_not_mem_of_not_mem_cons unqueued
    refine ⟨unqueued, fun running => notFirst ?_⟩
    rcases task with ⟨type, other⟩
    cases type with
    | delete => cases running
    | download =>
      cases running
      rfl

theorem At.withOffline (at_ : At stage downloader) (offline : List Directory) :
    At stage { downloader with offline } :=
  ⟨⟨at_.working, at_.jobs, at_.replies, at_.urlLoader, at_.distiller, at_.originalUrl,
    at_.mimeType⟩, at_.tasks⟩

variable [DecidableEq Url]

theorem NoDownload.request (noDownload : NoDownload url stage downloader) {request : Request Url}
    (other : request ≠ .downloadOfflineURL url) :
    NoDownload url stage { downloader with tasks := requestTasks downloader.tasks request } := by
  obtain ⟨unqueued, notRunning⟩ := noDownload
  refine ⟨?_, notRunning⟩
  have dropped : (.download, url) ∉ withoutDownloads url downloader.tasks := by
    simp [withoutDownloads]
  by_cases own : request.url = url
  · subst own
    cases request <;> grind [requestTasks, Request.url]
  · exact fun mem => unqueued ((mem_requestTasks_of_ne (Ne.symm own)).mp mem)

variable [DecidableEq Directory]

/-- Only a request brings a new download. -/
theorem NoDownload.moves (noDownload : NoDownload url stage downloader)
    (moves : Moves urls stage downloader input stage' next effects)
    (other : input ≠ .request (.downloadOfflineURL url)) : NoDownload url stage' next := by
  have rested : NoDownload url .idle downloader.finished := ⟨noDownload.1, nofun⟩
  cases moves with
  | request request starts =>
    have others : request ≠ .downloadOfflineURL url := by
      rintro rfl
      exact other rfl
    exact (noDownload.request others).starts starts
  | deleted deletedUrl success starts | found foundUrl starts
  | saved savedUrl completion succeeded starts | cleared clearedUrl completion starts =>
    exact rested.starts starts
  | _ => exact noDownload

theorem Stage.HasPath.moves (hasPath : stage.HasPath)
    (moves : Moves urls stage downloader input stage' next effects) : stage'.HasPath := by
  have beginning (task : Task Url) : (Stage.beginning task : Stage Url Directory).HasPath := by
    rcases task with ⟨type, other⟩
    cases type <;> exact trivial
  have started {before : Stage Url Directory} {between : URLDownloader Url Directory}
      {more : List (DownloaderEffect Url Directory)} (had : before.HasPath)
      (starts : Starts before between stage' next more) : stage'.HasPath := by
    cases starts <;> grind
  have path (url : Url) (save : Save Url) : (save.completion urls url).path ≠ .empty := by
    cases save <;> exact fun same => by cases same
  cases moves <;> grind [HasPath]

/-- A downloader at rest takes requests only. -/
theorem Moves.notOwn (moves : Moves urls .idle downloader input stage' next effects) :
    input.isOwn = false := by
  cases moves with
  | request => rfl

end Steps

end URLDownloader

namespace ReadingListDownloadService

open URLDownloader (At NoDownload Stage)

variable {Url Directory : Type} [DecidableEq Url] [DecidableEq Directory]
variable (service : ReadingListDownloadService Url Directory)

/-- When a download has succeeded no other download of its URL is queued, and a failure for
another URL than that of the task is not reported for a processed entry. -/
def ReportsCarefully (service : ReadingListDownloadService Url Directory) :
    Reply Url Directory → Prop
  | .downloadCompletion completion success =>
    success ≠ .error → (.download, completion.url) ∉ service.urlDownloader.tasks
  | .postDelete completion _ =>
    completion.url = service.urlDownloader.originalUrl ∨ ¬ service.IsProcessed completion.url
  | _ => True

def Careful (service : ReadingListDownloadService Url Directory) :
    ServiceInput Url Directory → Prop
  | .downloader .runReply =>
    ∀ reply ∈ service.urlDownloader.replies.head?, service.ReportsCarefully reply
  | _ => True

/-- Processed entries are not downloaded. -/
structure Settled (stage : Stage Url Directory)
    (service : ReadingListDownloadService Url Directory) : Prop where
  at_ : At stage service.urlDownloader
  unloaded : service.loaded = false → stage = .idle ∧ ∀ url, ¬ service.IsProcessed url
  hasPath : stage.HasPath
  noDownload : ∀ url, service.IsProcessed url → NoDownload url stage service.urlDownloader

section Steps

variable {urls : OfflineUrls Url Directory} {stage : Stage Url Directory} {url : Url}
variable {service after : ReadingListDownloadService Url Directory}
variable {input : ServiceInput Url Directory} {outputs : List (ServiceOutput Url Directory)}

omit [DecidableEq Directory] in
theorem Settled.keeps (settled : Settled stage service) (keeps : Keeps service after) :
    Settled stage after where
  at_ := keeps.urlDownloader ▸ settled.at_
  unloaded unloaded := by
    obtain ⟨idle, none⟩ := settled.unloaded (keeps.loaded ▸ unloaded)
    exact ⟨idle, fun url processed => none url ((keeps.processed url).mp processed)⟩
  hasPath := settled.hasPath
  noDownload url processed :=
    keeps.urlDownloader ▸ settled.noDownload url ((keeps.processed url).mp processed)

/-- A request leaves the entries as they are, and brings no download of a processed one. -/
theorem Settled.requested {request : Request Url} (settled : Settled stage service)
    (loaded : service.loaded = true)
    (unprocessed : ∀ url, request = .downloadOfflineURL url → ¬ service.IsProcessed url)
    (requested : Requested urls request service after) :
    ∃ stage', Settled stage' after ∧ ∀ url, after.IsProcessed url ↔ service.IsProcessed url := by
  obtain ⟨urlDownloader, _, stepped, keeps⟩ := requested
  have accepted : service.urlDownloader.Accepts (.request request) := trivial
  obtain ⟨stage', moves, atNext⟩ := settled.at_.moves_of_step accepted stepped
  have moved : Settled stage' { service with urlDownloader } := by
    refine ⟨atNext, fun unloaded => ?_, settled.hasPath.moves moves, fun url processed => ?_⟩
    · cases loaded.symm.trans unloaded
    · apply (settled.noDownload url processed).moves moves
      intro same
      cases same
      exact unprocessed url rfl processed
  exact ⟨stage', moved.keeps keeps, keeps.processed⟩

/-- A report that is made carefully. -/
theorem Settled.report {input : URLDownloader.Input Url}
    {urlDownloader : URLDownloader Url Directory}
    {effects : List (DownloaderEffect Url Directory)} {report : DownloadReport Url Directory}
    (settled : Settled stage service) (accepted : service.urlDownloader.Accepts input)
    (stepped : URLDownloader.step urls service.urlDownloader input =
      some (urlDownloader, effects))
    (loud : URLDownloader.reports effects = [report])
    (settles : Settles report { service with urlDownloader } after)
    (careful : Careful service (.downloader input)) :
    ∃ stage', Settled stage' after ∧
      ∀ url, service.IsProcessed url → after.IsProcessed url := by
  obtain ⟨stage', moves, atNext⟩ := settled.at_.moves_of_step accepted stepped
  rcases moves.reports with silent | ⟨reported, rest, rfl, same, ends, starts⟩
  · cases silent.symm.trans loud
  · cases same.symm.trans loud
    have atAfter : At stage' after.urlDownloader := settles.urlDownloader ▸ atNext
    have unloaded : after.loaded = false → stage' = .idle ∧ ∀ url, ¬ after.IsProcessed url := by
      intro unloaded
      obtain ⟨rfl, -⟩ := settled.unloaded (settles.loaded.symm.trans unloaded)
      cases ends
    have stays (url : Url) (processed : service.IsProcessed url) :
        NoDownload url stage' after.urlDownloader :=
      settles.urlDownloader ▸
        (settled.noDownload url processed).moves moves fun same => by cases same
    -- A failure is reported for an entry that is not processed.
    have failed (real : realSuccessValue report = .error)
        (unprocessed : ¬ service.IsProcessed report.url) :
        ∃ stage', Settled stage' after ∧
          ∀ url, service.IsProcessed url → after.IsProcessed url := by
      have processed (url : Url) : after.IsProcessed url ↔
          service.IsProcessed url ∧ url ≠ report.url := by
        have processed := settles.processed url
        rw [if_pos real] at processed
        exact processed
      refine ⟨stage', ⟨atAfter, unloaded, settled.hasPath.moves moves, ?_⟩, ?_⟩
      · grind
      · grind
    cases ends with
    | found url =>
      refine failed (if_pos rfl) fun processed => ?_
      exact (settled.noDownload url processed).2 rfl
    | cleared url completion =>
      refine failed (ite_self _) fun processed => ?_
      rcases careful (.postDelete completion .error) (congrArg List.head? settled.at_.replies)
        with own | unprocessed
      · have running : service.urlDownloader.originalUrl = url := settled.at_.originalUrl rfl
        apply (settled.noDownload completion.url processed).2
        rw [own, running]
        rfl
      · exact unprocessed processed
    | saved url completion succeeded =>
      rename_i success
      have real : realSuccessValue (service.urlDownloader.report completion success) = success :=
        if_neg settled.hasPath
      have unqueued := careful (.downloadCompletion completion success)
        (congrArg List.head? settled.at_.replies) succeeded
      have processed (url : Url) : after.IsProcessed url ↔ service.IsProcessed url ∨
          url = completion.url ∧ (service.getEntryByURL completion.url).isSome := by
        have processed := settles.processed url
        rw [real, if_neg succeeded] at processed
        exact processed
      have rested : NoDownload completion.url .idle service.urlDownloader.finished :=
        ⟨unqueued, fun task => by cases task⟩
      refine ⟨stage', ⟨atAfter, unloaded, settled.hasPath.moves moves, ?_⟩,
        fun url isProcessed => (processed url).mpr (.inl isProcessed)⟩
      intro url isProcessed
      rcases (processed url).mp isProcessed with before | ⟨rfl, -⟩
      · exact stays url before
      · exact settles.urlDownloader ▸ rested.starts starts

/-- Every careful input keeps the entries settled, and processed ones that are not removed stay
processed. -/
theorem Settled.moves (settled : Settled stage service)
    (moves : Moves urls service input after outputs) (careful : Careful service input) :
    ∃ stage', Settled stage' after ∧
      ∀ url, .removed url ∉ outputs → service.IsProcessed url → after.IsProcessed url := by
  cases moves with
  | keep _ keeps =>
    exact ⟨stage, settled.keeps keeps, fun url _ => (keeps.processed url).mpr⟩
  | load _ unloaded =>
    obtain ⟨rfl, none⟩ := settled.unloaded unloaded
    refine ⟨.idle, ⟨settled.at_, nofun, trivial, fun url _ => ⟨?_, nofun⟩⟩, ?_⟩
    · simp [settled.at_.tasks rfl]
    · simp [none]
  | cancel _ _ loaded requested =>
    obtain ⟨stage', settledAfter, same⟩ :=
      settled.requested loaded (fun _ download => by cases download) requested
    grind
  | download _ url loaded unprocessed requested =>
    have others (other : Url)
        (same : Request.downloadOfflineURL url = .downloadOfflineURL other) :
        ¬ service.IsProcessed other := by
      cases same
      exact unprocessed
    obtain ⟨stage', settledAfter, same⟩ := settled.requested loaded others requested
    grind
  | remove _ loaded requested =>
    obtain ⟨stage', settledAfter, same⟩ :=
      settled.requested loaded (fun _ download => by cases download) requested
    refine ⟨stage', ⟨settledAfter.at_, fun unloaded => ?_, settledAfter.hasPath, ?_⟩, ?_⟩
    · obtain ⟨idle, none⟩ := settledAfter.unloaded unloaded
      exact ⟨idle, fun other processed => none other (isProcessed_removeEntry.mp processed).1⟩
    · exact fun other processed =>
        settledAfter.noDownload other (isProcessed_removeEntry.mp processed).1
    · intro other unremoved processed
      refine isProcessed_removeEntry.mpr ⟨(same other).mpr processed, ?_⟩
      grind
  | clean _ _ _ _ =>
    exact ⟨stage, ⟨settled.at_.withOffline _, settled.unloaded, settled.hasPath,
      settled.noDownload⟩, fun url _ processed => processed⟩
  | own _ accepted isOwn stepped _ keeps =>
    obtain ⟨stage', moves, atNext⟩ := settled.at_.moves_of_step accepted stepped
    refine ⟨stage', Settled.keeps ⟨atNext, ?_, settled.hasPath.moves moves, ?_⟩ keeps,
      fun url _ => (keeps.processed url).mpr⟩
    · intro unloaded
      obtain ⟨rfl, -⟩ := settled.unloaded unloaded
      cases moves.notOwn.symm.trans isOwn
    · intro url processed
      apply (settled.noDownload url processed).moves moves
      rintro rfl
      cases isOwn
  | report _ accepted stepped loud settles =>
    obtain ⟨stage', settledAfter, stays⟩ :=
      settled.report accepted stepped loud settles careful
    grind

end Steps

omit [DecidableEq Directory] in
theorem settled_initial (emptyUrl : Url) (savedSize : Int) (offline : List Directory)
    (hadConnection : Bool) :
    Settled .idle (initial emptyUrl savedSize offline hadConnection) where
  at_ := URLDownloader.at_initial emptyUrl savedSize offline
  unloaded _ := ⟨rfl, nofun⟩
  hasPath := trivial
  noDownload := nofun

/-- Whatever happens from then on, an entry that is processed and not removed stays
processed, if no other download of its URL is queued when one succeeds and no
failure is reported for it that is not its own. -/
theorem run_staysProcessed (urls : OfflineUrls Url Directory) (emptyUrl : Url) (savedSize : Int)
    (offline : List Directory) (hadConnection : Bool)
    (earlier later : List (ServiceOutput Url Directory))
    (state last : ReadingListDownloadService Url Directory)
    (run : Runs (step urls) (fun service input => Accepts service input ∧ Careful service input)
      (initial emptyUrl savedSize offline hadConnection) earlier state)
    (rest : Runs (step urls) (fun service input => Accepts service input ∧ Careful service input)
      state later last)
    (url : Url) (processed : state.IsProcessed url) (unremoved : .removed url ∉ later) :
    last.IsProcessed url := by
  have settled : ∃ stage, Settled stage state := by
    apply run.invariant fun service => ∃ stage, Settled stage service
    · exact ⟨.idle, settled_initial emptyUrl savedSize offline hadConnection⟩
    · rintro service after input outputs ⟨stage, settled⟩ ⟨accepted, careful⟩ stepped
      obtain ⟨stage', settledAfter, -⟩ :=
        settled.moves (moves_of_step settled.at_ accepted stepped) careful
      exact ⟨stage', settledAfter⟩
  have kept : ∃ stage, Settled stage last ∧ (.removed url ∉ later → last.IsProcessed url) := by
    apply rest.invariant_outputs fun outputs service => ∃ stage, Settled stage service ∧
      (.removed url ∉ outputs → service.IsProcessed url)
    · simp [settled, processed]
    · rintro outputs service after input emitted - ⟨stage, settled, stays⟩ ⟨accepted, careful⟩
        stepped
      obtain ⟨stage', settledAfter, kept⟩ :=
        settled.moves (moves_of_step settled.at_ accepted stepped) careful
      grind
  grind

instance (reply : Reply Url Directory) : Decidable (service.ReportsCarefully reply) :=
  match reply with
  | .downloadCompletion _ _ => inferInstanceAs (Decidable (_ → _ ∉ _))
  | .postDelete _ _ => inferInstanceAs (Decidable (_ ∨ _))
  | .downloadURL _ _ | .deleteCompletion _ _ => isTrue trivial

instance (input : ServiceInput Url Directory) : Decidable (Careful service input) :=
  match input with
  | .downloader .runReply =>
    inferInstanceAs (Decidable (∀ _ ∈ service.urlDownloader.replies.head?, _))
  | .downloader (.request _) | .downloader (.hasMimeType _) | .downloader (.redirectedToURL _)
  | .downloader (.distilled _ _ _) | .downloader (.urlLoadComplete _ _)
  | .downloader (.runJob _) | .modelLoaded _ | .didAddEntry _ _ | .didMoveEntry _ _
  | .willRemoveEntry _ | .failedDownloads _ _ | .runDelayedTask _ _ | .connectionChanged _
  | .cleanUpFile _ _ | .cleanUpEnds | .cleanUpReply => isTrue trivial

def added : List (ServiceInput Nat Nat) :=
  [.modelLoaded [], .didAddEntry 1 false, .runDelayedTask 1 .connectionWifi,
    .downloader (.runJob URLDownloader.succeeding), .downloader .runReply,
    .downloader (.distilled "page" [] "title"), .downloader (.runJob URLDownloader.succeeding),
    .downloader (.runJob URLDownloader.succeeding), .downloader .runReply]

def downloaded : ReadingListDownloadService Nat Nat where
  urlDownloader :=
    { tasks := []
      working := false
      originalUrl := 1
      distilledUrl := 1
      savedSize := 1
      mimeType := ""
      urlLoader := none
      distiller := none
      jobs := []
      replies := []
      offline := [1] }
  loaded := true
  entries := [⟨1, .processed, some ⟨.page 1 .html, 1, 1⟩, false, 0⟩]
  urlToDownloadCellular := []
  urlToDownloadWifi := []
  hadConnection := true
  delayedTasks := []
  cleanUp := some (.cleaning [] [])

/-- A page that was downloaded is marked read and unread, while the connection changes. -/
theorem run_staysProcessed_moved :
    ∃ later last, Runs (step URLDownloader.numberedUrls) Accepts downloaded later last ∧
      last.IsProcessed 1 := by
  have run : Runs (step URLDownloader.numberedUrls)
      (fun service input => Accepts service input ∧ Careful service input)
      (initial 0 0 [] true) [] downloaded :=
    Runs.replay added .start rfl
  have rest : Runs (step URLDownloader.numberedUrls)
      (fun service input => Accepts service input ∧ Careful service input) downloaded _ _ :=
    Runs.replay [.didMoveEntry 1 true, .connectionChanged .connectionNone, .didMoveEntry 1 false,
      .connectionChanged .connectionWifi, .cleanUpEnds, .cleanUpReply] .start
      (Option.eq_some_of_isSome (by decide))
  exact ⟨_, _, rest.mono fun both => both.1,
    run_staysProcessed URLDownloader.numberedUrls 0 0 [] true _ _ _ _ run rest 1 (by decide)
      (by decide)⟩

/-- The page is downloaded for two tasks that were scheduled, the second one coming while the
first one goes on. -/
def overlapping : List (ServiceInput Nat Nat) :=
  [.modelLoaded [], .didAddEntry 1 false, .didMoveEntry 1 true, .didMoveEntry 1 false,
    .runDelayedTask 1 .connectionWifi, .runDelayedTask 1 .connectionWifi,
    .downloader (.runJob URLDownloader.succeeding), .downloader .runReply,
    .downloader (.distilled "page" [] "title"), .downloader (.runJob URLDownloader.succeeding),
    .downloader (.runJob URLDownloader.succeeding), .downloader .runReply]

def downloadedOnce : ReadingListDownloadService Nat Nat :=
  { downloaded with
    urlDownloader := { downloaded.urlDownloader with working := true, jobs := [.pathExists 1] } }

/-- The second download finds the page on disk, and the entry is to be downloaded again. -/
theorem run_overlapping :
    Runs (step URLDownloader.numberedUrls) Accepts (initial 0 0 [] true) [] downloadedOnce ∧
      downloadedOnce.IsProcessed 1 ∧ 1 ∈ downloadedOnce.urlDownloader.offline ∧
      ∃ last, Runs (step URLDownloader.numberedUrls) Accepts downloadedOnce [] last ∧
        last.distilledState 1 = some .willRetry := by
  refine ⟨Runs.replay overlapping .start rfl, by decide, by decide, ?_⟩
  have rest : Runs (step URLDownloader.numberedUrls) Accepts downloadedOnce _ _ :=
    Runs.replay [.downloader (.runJob URLDownloader.succeeding), .downloader .runReply] .start
      (Option.eq_some_of_isSome (by decide))
  exact ⟨_, rest, by decide⟩

end ReadingListDownloadService

end ChromiumIos
