import ChromiumIos.Lib.Fifo
import ChromiumIos.ReadingList.DownloadStages

/-!
# The queue of tasks

The requests and the tasks of a run are those of a queue from which only the
downloads of a URL that is cancelled or removed are dropped.  One task is handled
at a time, and it completes before the next one starts.  When deletions succeed,
a downloader that has come to rest leaves nothing of a URL that was removed last.
-/

namespace ChromiumIos

open Lib

namespace URLDownloader

variable {Url Directory : Type} [DecidableEq Url]

/-! ## Turns -/

/-- The task in progress after an effect.  A task starts only when none is in progress, and
only the task in progress completes. -/
def turn (current : Option (Task Url)) : DownloaderEffect Url Directory →
    Option (Option (Task Url))
  | .requested _ | .queued _ | .cancelled _ => some current
  | .started task => if current = none then some (some task) else none
  | .downloadCompletion _ =>
    match current with
    | some (.download, _) => some none
    | _ => none
  | .deleteCompletion url _ => if current = some (.delete, url) then some none else none

def queueEvent : DownloaderEffect Url Directory → Option (QueueEvent (Task Url))
  | .queued task => some (.push task)
  | .cancelled url => some (.drop (.download, url))
  | .started task => some (.pop task)
  | _ => none

def queueEvents (log : List (DownloaderEffect Url Directory)) : List (QueueEvent (Task Url)) :=
  log.filterMap queueEvent

omit [DecidableEq Url] in
theorem queueEvents_append (log more : List (DownloaderEffect Url Directory)) :
    queueEvents (log ++ more) = queueEvents log ++ queueEvents more :=
  List.filterMap_append ..

/-- A log that takes one queue to another: only requests queue and cancel tasks, and a task that
starts is the first. -/
inductive Answered : List (Task Url) → List (DownloaderEffect Url Directory) →
    List (Task Url) → Prop where
  | done (tasks : List (Task Url)) : Answered tasks [] tasks
  | request {tasks last : List (Task Url)} {log : List (DownloaderEffect Url Directory)}
      (request : Request Url) (rest : Answered (requestTasks tasks request) log last) :
      Answered tasks (.requested request :: requestEffects tasks request ++ log) last
  | started {tasks last : List (Task Url)} {log : List (DownloaderEffect Url Directory)}
      (task : Task Url) (rest : Answered tasks log last) :
      Answered (task :: tasks) (.started task :: log) last
  | downloaded {tasks last : List (Task Url)} {log : List (DownloaderEffect Url Directory)}
      (report : DownloadReport Url Directory) (rest : Answered tasks log last) :
      Answered tasks (.downloadCompletion report :: log) last
  | deleted {tasks last : List (Task Url)} {log : List (DownloaderEffect Url Directory)}
      (url : Url) (success : Bool) (rest : Answered tasks log last) :
      Answered tasks (.deleteCompletion url success :: log) last

variable (tasks : List (Task Url))

theorem Answered.append {next last : List (Task Url)}
    {log more : List (DownloaderEffect Url Directory)} {tasks : List (Task Url)}
    (answered : Answered tasks log next) (others : Answered next more last) :
    Answered tasks (log ++ more) last := by
  induction answered with
  | done _ => exact others
  | request request _ ih =>
    rw [List.append_assoc]
    exact .request request (ih others)
  | started task _ ih => exact .started task (ih others)
  | downloaded report _ ih => exact .downloaded report (ih others)
  | deleted url success _ ih => exact .deleted url success (ih others)

section Steps

variable {urls : OfflineUrls Url Directory} {stage stage' : Stage Url Directory}
variable {downloader next : URLDownloader Url Directory} {input : Input Url}
variable {effects : List (DownloaderEffect Url Directory)}

theorem Starts.turns (starts : Starts stage downloader stage' next effects) :
    effects.foldlM turn stage.task = some stage'.task := by
  cases starts with
  | busy inProgress | empty none => rfl
  | next _ =>
    change some (some _) = _
    rw [Stage.task_beginning]

theorem Starts.replays (starts : Starts stage downloader stage' next effects) :
    QueueEvent.replay downloader.tasks (queueEvents effects) = some next.tasks := by
  cases starts with
  | busy inProgress | empty none => rfl
  | next queue =>
    rename_i task rest
    rw [queue]
    change (if task = task then some rest else none) >>= _ = _
    rw [if_pos rfl]
    rfl

theorem Starts.answered (starts : Starts stage downloader stage' next effects) :
    Answered downloader.tasks effects next.tasks := by
  cases starts with
  | busy _ | empty _ => exact .done _
  | next queue =>
    rename_i task rest
    rw [queue]
    exact .started task (.done rest)

theorem turns_requestEffects (request : Request Url) (current : Option (Task Url)) :
    (requestEffects tasks request : List (DownloaderEffect Url Directory)).foldlM turn current =
      some current := by
  cases request with
  | downloadOfflineURL _ =>
    unfold requestEffects
    simp only
    split <;> rfl
  | removeOfflineURL url | cancelDownloadOfflineURL url => rfl

theorem replays_requestEffects (request : Request Url) :
    QueueEvent.replay tasks
        (queueEvents (requestEffects tasks request : List (DownloaderEffect Url Directory))) =
      some (requestTasks tasks request) := by
  cases request with
  | downloadOfflineURL _ =>
    unfold requestEffects requestTasks
    simp only
    split <;> rfl
  | removeOfflineURL url | cancelDownloadOfflineURL url => rfl

variable [DecidableEq Directory]

/-- Every input keeps the turns. -/
theorem Moves.turns (moves : Moves urls stage downloader input stage' next effects) :
    effects.foldlM turn stage.task = some stage'.task := by
  cases moves with
  | request request starts =>
    change List.foldlM turn stage.task (requestEffects downloader.tasks request ++ _) = _
    simpa [turns_requestEffects] using starts.turns
  | deleted _ _ starts =>
    simpa [turn, Stage.task] using starts.turns
  | found url starts | saved url completion succeeded starts | cleared url completion starts =>
    exact starts.turns
  | _ => rfl

/-- Every input does to the tasks what its effects do to a queue. -/
theorem Moves.replays (moves : Moves urls stage downloader input stage' next effects) :
    QueueEvent.replay downloader.tasks (queueEvents effects) = some next.tasks := by
  cases moves with
  | request request starts =>
    change QueueEvent.replay _ (queueEvents (requestEffects downloader.tasks request ++ _)) = _
    rw [queueEvents_append, QueueEvent.replay_append, replays_requestEffects]
    exact starts.replays
  | deleted url success starts | found url starts | saved url completion succeeded starts
  | cleared _ _ starts => exact starts.replays
  | _ => rfl

theorem Moves.answered (moves : Moves urls stage downloader input stage' next effects) :
    Answered downloader.tasks effects next.tasks := by
  cases moves with
  | request request starts => exact .request request starts.answered
  | deleted url success starts => exact .deleted url success starts.answered
  | found _ starts | saved _ _ _ starts | cleared _ _ starts =>
    exact .downloaded _ starts.answered
  | _ => exact .done _

end Steps

/-! ## Removals -/

omit [DecidableEq Url] in
def requests (log : List (DownloaderEffect Url Directory)) : List (Request Url) :=
  log.filterMap fun effect =>
    match effect with
    | .requested request => some request
    | _ => none

def lastRequest (url : Url) (log : List (DownloaderEffect Url Directory)) :
    Option (Request Url) :=
  ((requests log).filter fun request => request.url = url).getLast?

omit [DecidableEq Url] in
theorem requests_append (log more : List (DownloaderEffect Url Directory)) :
    requests (log ++ more) = requests log ++ requests more :=
  List.filterMap_append ..

def Input.requests : Input Url → List (Request Url)
  | .request asked => [asked]
  | _ => []

omit [DecidableEq Url] in
theorem Starts.requests {stage stage' : Stage Url Directory}
    {downloader next : URLDownloader Url Directory}
    {effects : List (DownloaderEffect Url Directory)}
    (starts : Starts stage downloader stage' next effects) :
    URLDownloader.requests effects = [] := by
  cases starts <;> rfl

theorem requests_requestEffects (request : Request Url) :
    requests (requestEffects tasks request : List (DownloaderEffect Url Directory)) = [] := by
  cases request with
  | downloadOfflineURL _ =>
    unfold requestEffects
    simp only
    split <;> rfl
  | removeOfflineURL url | cancelDownloadOfflineURL url => rfl

variable [DecidableEq Directory]

theorem Moves.requests {urls : OfflineUrls Url Directory} {stage stage' : Stage Url Directory}
    {downloader next : URLDownloader Url Directory} {input : Input Url}
    {effects : List (DownloaderEffect Url Directory)}
    (moves : Moves urls stage downloader input stage' next effects) :
    URLDownloader.requests effects = input.requests := by
  cases moves with
  | request _ starts =>
    grind [URLDownloader.requests, Input.requests, requests_requestEffects, starts.requests]
  | deleted url success starts | found url starts | saved url completion succeeded starts
  | cleared _ _ starts => exact starts.requests
  | _ => rfl

def DeletionSucceeds (downloader : URLDownloader Url Directory) : Input Url → Prop
  | .runJob results =>
    ∀ url, downloader.jobs.head? = some (.deleteFile url) → results.succeeded = true
  | _ => True

instance (downloader : URLDownloader Url Directory) (input : Input Url) :
    Decidable (DeletionSucceeds downloader input) :=
  match input with
  | .runJob results =>
    match job : downloader.jobs.head? with
    | some (.deleteFile url) =>
      decidable_of_iff (results.succeeded = true)
        ⟨fun succeeded _ _ => succeeded, fun succeeds => succeeds url job⟩
    | none | some (.pathExists _) | some (.deletePartial _) | some (.saveDistilledHTML _ _ _)
    | some (.writeDistilledHTML _ _ _) | some (.savePDFFile _) | some (.movePDFFile _) =>
      isTrue fun _ deletes => by cases job.symm.trans deletes
  | .request _ | .hasMimeType _ | .redirectedToURL _ | .distilled _ _ _ | .urlLoadComplete _ _
  | .runReply => isTrue trivial

/-- A URL that is to be removed: no download of it is queued, and its deletion is to come, or
it is gone and not downloaded. -/
def Vanishing (urls : OfflineUrls Url Directory) (url : Url) (stage : Stage Url Directory)
    (downloader : URLDownloader Url Directory) : Prop :=
  (.download, url) ∉ downloader.tasks ∧
    ((.delete, url) ∈ downloader.tasks ∨ stage = .deleting url ∨
      (urls.offlineURLDirectoryID url ∉ downloader.offline ∧
        stage.task ≠ some (.download, url)))

section Removals

variable {urls : OfflineUrls Url Directory} {stage stage' : Stage Url Directory} {url : Url}
variable {downloader next : URLDownloader Url Directory} {input : Input Url}
variable {effects : List (DownloaderEffect Url Directory)}

omit [DecidableEq Url] [DecidableEq Directory] in
theorem Vanishing.starts (vanishing : Vanishing urls url stage downloader)
    (starts : Starts stage downloader stage' next effects) : Vanishing urls url stage' next := by
  cases starts with
  | busy inProgress | empty none => exact vanishing
  | next queue =>
    rename_i task rest
    obtain ⟨noDownload, state⟩ := vanishing
    rw [queue] at noDownload state
    grind [Vanishing, Stage.beginning, begun, Stage.task_beginning]

omit [DecidableEq Directory] in
/-- A removal requested makes its URL vanish. -/
theorem Vanishing.removal (starts : Starts stage
      { downloader with tasks := requestTasks downloader.tasks (.removeOfflineURL url) }
      stage' next effects) : Vanishing urls url stage' next := by
  apply Vanishing.starts _ starts
  constructor
  · intro mem
    rcases List.mem_append.mp mem with kept | last
    · exact of_decide_eq_true (List.mem_filter.mp kept).2 rfl
    · cases List.mem_singleton.mp last
  · simp [requestTasks]

omit [DecidableEq Directory] in
/-- Requests for other URLs leave it to vanish. -/
theorem Vanishing.request (vanishing : Vanishing urls url stage downloader) {request : Request Url}
    (other : request.url ≠ url)
    (starts : Starts stage { downloader with tasks := requestTasks downloader.tasks request }
      stage' next effects) : Vanishing urls url stage' next := by
  obtain ⟨noDownload, state⟩ := vanishing
  have kept : ∀ type, (type, url) ∈ requestTasks downloader.tasks request ↔
      (type, url) ∈ downloader.tasks :=
    fun type => mem_requestTasks_of_ne (Ne.symm other)
  apply Vanishing.starts _ starts
  grind [Vanishing]

/-- What vanishes goes on to do so whatever happens, but for further requests. -/
theorem Vanishing.moves (vanishing : Vanishing urls url stage downloader)
    (moves : Moves urls stage downloader input stage' next effects)
    (other : ∀ request, input = .request request → request.url ≠ url)
    (succeeds : DeletionSucceeds downloader input) (at_ : At stage downloader) :
    Vanishing urls url stage' next := by
  obtain ⟨noDownload, state⟩ := vanishing
  -- A stage of a download goes on to one of the same download or to rest.
  have moved : ∀ {after : Stage Url Directory} {last : URLDownloader Url Directory},
      stage ≠ .deleting url → last.tasks = downloader.tasks →
      (after.task = some (.download, url) → stage.task = some (.download, url)) →
      (urls.offlineURLDirectoryID url ∉ downloader.offline →
        stage.task ≠ some (.download, url) → urls.offlineURLDirectoryID url ∉ last.offline) →
      Vanishing urls url after last := by
    grind [Vanishing]
  cases moves with
  | request request starts =>
    exact Vanishing.request ⟨noDownload, state⟩ (other request rfl) starts
  | delete _ results =>
    refine ⟨noDownload, ?_⟩
    rcases state with queued | atIt | ⟨gone, -⟩
    · exact .inl queued
    · cases atIt
      have succeeded : results.succeeded = true := succeeds url (congrArg List.head? at_.jobs)
      simp [deleteDirectory, Stage.task, succeeded]
    · exact .inr (.inr ⟨notMem_deleteDirectory gone, fun task => by cases task⟩)
  | deleted deletedUrl success starts | found foundUrl starts
  | saved savedUrl completion succeeded starts | cleared clearedUrl completion starts =>
    have rested : Vanishing urls url .idle downloader.finished :=
      moved (fun same => by cases same) rfl (fun task => by cases task) fun gone _ => gone
    exact rested.starts starts
  | created _ _ _ succeeded =>
    refine moved (fun same => by cases same) rfl (fun same => same) fun gone notThis => ?_
    apply notMem_createDirectory gone _ succeeded
    intro same
    cases urls.injective same
    exact notThis rfl
  | clear _ _ _ =>
    exact moved (fun same => by cases same) rfl (fun same => same)
      fun gone _ => notMem_deleteDirectory gone
  | _ => exact moved (fun same => by cases same) rfl (fun same => same) fun gone _ => gone

end Removals

/-! ## Runs -/

section Runs

variable {urls : OfflineUrls Url Directory} {emptyUrl url : Url} {savedSize : Int}
variable {offline : List Directory} {state : URLDownloader Url Directory}
variable {log : List (DownloaderEffect Url Directory)}
variable {stage stage' : Stage Url Directory} {downloader next : URLDownloader Url Directory}
variable {input : Input Url} {effects : List (DownloaderEffect Url Directory)}

/-- The log of a run, its state and the task in progress. -/
structure Logged (log : List (DownloaderEffect Url Directory)) (stage : Stage Url Directory)
    (state : URLDownloader Url Directory) : Prop extends At stage state where
  turns : log.foldlM turn none = some stage.task
  replays : QueueEvent.replay [] (queueEvents log) = some state.tasks
  answered : Answered [] log state.tasks

theorem Logged.moves (logged : Logged log stage downloader)
    (moves : Moves urls stage downloader input stage' next effects) (at_ : At stage' next) :
    Logged (log ++ effects) stage' next where
  toAt := at_
  turns := by
    rw [List.foldlM_append, logged.turns]
    exact moves.turns
  replays := by
    rw [queueEvents_append, QueueEvent.replay_append, logged.replays]
    exact moves.replays
  answered := logged.answered.append moves.answered

theorem run_logged
    (run : Runs (step urls) Accepts (initial emptyUrl savedSize offline) log state) :
    ∃ stage, Logged log stage state := by
  apply run.invariant_outputs fun log state => ∃ stage, Logged log stage state
  · exact ⟨.idle, ⟨at_initial emptyUrl savedSize offline, rfl, rfl, .done []⟩⟩
  · rintro log downloader next input effects - ⟨stage, logged⟩ accepted stepped
    obtain ⟨stage', moves, at_⟩ := logged.toAt.moves_of_step accepted stepped
    exact ⟨stage', logged.moves moves at_⟩

/-- A URL whose last request is a removal vanishes, when deletions succeed. -/
theorem run_vanishing (run : Runs (step urls)
      (fun state input => Accepts state input ∧ DeletionSucceeds state input)
      (initial emptyUrl savedSize offline) log state) :
    ∃ stage, At stage state ∧ (lastRequest url log = some (.removeOfflineURL url) →
      Vanishing urls url stage state) := by
  apply run.invariant_outputs fun log state => ∃ stage, At stage state ∧
    (lastRequest url log = some (.removeOfflineURL url) → Vanishing urls url stage state)
  · exact ⟨.idle, at_initial emptyUrl savedSize offline, nofun⟩
  · rintro log downloader next input effects - ⟨stage, at_, vanishing⟩ ⟨accepted, succeeds⟩ stepped
    obtain ⟨stage', moves, atNext⟩ := at_.moves_of_step accepted stepped
    refine ⟨stage', atNext, fun last => ?_⟩
    unfold lastRequest at last vanishing
    rw [requests_append, moves.requests, List.filter_append] at last
    by_cases own : ∃ request, input = .request request ∧ request.url = url
    · obtain ⟨request, rfl, rfl⟩ := own
      have isRemoval : request = .removeOfflineURL request.url := by
        have filtered : ([request].filter fun other => other.url = request.url) = [request] := by
          simp
        change (_ ++ [request].filter _).getLast? = _ at last
        simpa using last
      rw [isRemoval] at moves
      cases moves with
      | request _ starts => exact Vanishing.removal starts
    · have others : ∀ request, input = .request request → request.url ≠ url :=
        fun request same isOwn => own ⟨request, same, isOwn⟩
      have none : (input.requests.filter fun request => request.url = url) = [] := by
        cases input with
        | request asked => simp [Input.requests, others asked rfl]
        | _ => rfl
      rw [none, List.append_nil] at last
      exact (vanishing last).moves moves others succeeds at_

/-- What a run is to look like: its log and the state it has reached. -/
structure Disciplined (urls : OfflineUrls Url Directory)
    (log : List (DownloaderEffect Url Directory)) (state : URLDownloader Url Directory) :
    Prop where
  /-- One task at a time, each of which completes once, before the next one starts. -/
  turns : ∃ current, log.foldlM turn none = some current ∧
    (state.working = true ↔ current ≠ none)
  /-- A task that starts is the first in the queue. -/
  replays : QueueEvent.replay [] (queueEvents log) = some state.tasks
  /-- Tasks are queued and cancelled as they are requested. -/
  answered : Answered [] log state.tasks
  inOrder : (QueueEvent.popped (queueEvents log) ++ state.tasks).Sublist
    (QueueEvent.pushed (queueEvents log))
  /-- No deletion is dropped. -/
  deletes : (QueueEvent.popped (queueEvents log) ++ state.tasks).filter (·.1 = .delete) =
    (QueueEvent.pushed (queueEvents log)).filter (·.1 = .delete)
  /-- No download is dropped while its URL is neither cancelled nor removed. -/
  downloads : ∀ {before after url waiting}, log = before ++ after →
    .cancelled url ∉ after → QueueEvent.replay [] (queueEvents before) = some waiting →
    (QueueEvent.popped (queueEvents after) ++ state.tasks).filter (· = (.download, url)) =
      (waiting ++ QueueEvent.pushed (queueEvents after)).filter (· = (.download, url))
  /-- No assertion fails, in particular there is no distiller when a download starts. -/
  asserted : ∀ input, Accepts state input → (step urls state input).isSome

omit [DecidableEq Url] [DecidableEq Directory] in
theorem drop_mem_queueEvents {task : Task Url} (mem : .drop task ∈ queueEvents log) :
    ∃ url, task = (.download, url) ∧ .cancelled url ∈ log := by
  obtain ⟨effect, memLog, isDrop⟩ := List.mem_filterMap.mp mem
  cases effect with
  | cancelled url =>
    cases isDrop
    exact ⟨url, rfl, memLog⟩
  | _ => cases isDrop

theorem Logged.disciplined (logged : Logged log stage state) : Disciplined urls log state where
  turns := by
    refine ⟨stage.task, logged.turns, ?_⟩
    rw [logged.working, ← Option.isSome_iff_ne_none]
  replays := logged.replays
  answered := logged.answered
  inOrder := QueueEvent.popped_append_sublist logged.replays
  deletes := by
    apply QueueEvent.filter_popped_append _ _ logged.replays
    intro task mem
    obtain ⟨url, rfl, -⟩ := drop_mem_queueEvents mem
    rfl
  downloads := by
    intro before after url waiting split uncancelled replayed
    have replays := logged.replays
    rw [split, queueEvents_append, QueueEvent.replay_append, replayed] at replays
    apply QueueEvent.filter_popped_append _ _ replays
    intro task mem
    obtain ⟨other, rfl, cancelled⟩ := drop_mem_queueEvents mem
    grind
  asserted input accepted := by
    obtain ⟨_, _, _, stepped, -⟩ := logged.toAt.moves accepted
    exact Option.isSome_of_eq_some stepped

/-- Whatever is requested and however the tasks go on, they are handled one at a
time in the order of the queue; when deletions succeed, a downloader at rest has
left no directory of a URL whose last request was a removal. -/
theorem run_queueDisciplined (urls : OfflineUrls Url Directory) (emptyUrl : Url) (savedSize : Int)
    (offline : List Directory) (log : List (DownloaderEffect Url Directory))
    (state : URLDownloader Url Directory)
    (run : Runs (step urls) Accepts (initial emptyUrl savedSize offline) log state) :
    Disciplined urls log state ∧
      (Runs (step urls) (fun state input => Accepts state input ∧ DeletionSucceeds state input)
          (initial emptyUrl savedSize offline) log state →
        state.working = false →
        ∀ url, lastRequest url log = some (.removeOfflineURL url) →
          urls.offlineURLDirectoryID url ∉ state.offline) := by
  obtain ⟨stage, logged⟩ := run_logged run
  refine ⟨logged.disciplined, fun succeeding idle url last => ?_⟩
  obtain ⟨stage', at_, vanishing⟩ := run_vanishing succeeding
  obtain ⟨-, queued | atIt | ⟨gone, -⟩⟩ := vanishing last
  · grind [Option.not_isSome_iff_eq_none, at_.working, at_.tasks]
  · rw [at_.working, atIt] at idle
    cases idle
  · exact gone

end Runs

def numberedUrls : OfflineUrls Nat Nat :=
  ⟨id, Function.injective_id, fun _ => true, fun _ => false, fun _ => false⟩

def succeeding : FileResults Nat := ⟨true, fun _ => 1, 1, 1⟩

/-- The inputs of a download that has begun and goes well. -/
def pageSaved : List (Input Nat) :=
  [.runJob succeeding, .runReply, .distilled "page" [] "title", .runJob succeeding,
    .runJob succeeding, .runReply]

/-- Three downloads are requested, of which the first is removed while it is in progress, and the
second is cancelled. -/
def removal : List (Input Nat) :=
  [.request (.downloadOfflineURL 1), .request (.downloadOfflineURL 2),
    .request (.downloadOfflineURL 3), .request (.removeOfflineURL 1),
    .request (.cancelDownloadOfflineURL 2)] ++ pageSaved ++ pageSaved ++
    [.runJob succeeding, .runReply]

/-- The third page is left of three, and one that was on disk before. -/
theorem run_queueDisciplined_removal :
    ∃ log state, Disciplined numberedUrls log state ∧ state.working = false ∧
      lastRequest 1 log = some (.removeOfflineURL 1) ∧ 1 ∉ state.offline ∧
      state.offline = [7, 3] := by
  have run : Runs (step numberedUrls)
      (fun state input => Accepts state input ∧ DeletionSucceeds state input)
      (initial 0 0 [7]) _ _ :=
    Runs.replay removal .start (Option.eq_some_of_isSome (by decide))
  obtain ⟨disciplined, gone⟩ :=
    run_queueDisciplined numberedUrls 0 0 [7] _ _ (run.mono fun accepted => accepted.1)
  exact ⟨_, _, disciplined, by decide, by decide, gone run (by decide) 1 (by decide), by decide⟩

end URLDownloader

end ChromiumIos
