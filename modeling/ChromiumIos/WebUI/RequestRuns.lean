import ChromiumIos.WebUI.PendingRequests

/-!
# Jobs are served

In every run whose answers can be served, the reads of a job return its response, every pending
read is completed once when the answer arrives, and a killed job is forgotten.
-/

namespace ChromiumIos

open Lib DataEvent URLRequestChromeJob

namespace URLDataManagerIOSBackend

variable {sources : Nat → URLDataSource} {backend after : URLDataManagerIOSBackend}
variable {log events : List DataEvent} {input : Input} {job requestId : Nat}

theorem step_served (served : Served log backend) (answers : Answers log backend)
    (offered : backend.Offered input) (canServe : CanServe backend input)
    (stepped : backend.step sources input = some (after, events)) :
    Served (log ++ events) after := by
  cases input with
  | start _ _ => exact start_served served answers offered.1 offered.2 stepped
  | read _ _ =>
    exact read_served served offered.2.2 canServe.1 canServe.2 stepped
  | kill job =>
    have killed := kill_served served job
    rwa [show backend.kill job = (after, events) from Option.some.inj stepped] at killed
  | addDataSource source =>
    obtain ⟨dataSources, hasBackend, same⟩ := addDataSource_frame sources backend source
    cases stepped
    grind [served.same]
  | runUITask =>
    unfold step at stepped
    dsimp only at stepped
    split at stepped
    · cases stepped
      grind
    · next task rest ui =>
      cases stepped
      cases task with
      | getMimeType source path job | callStartRequest source path requestId =>
        exact served.same rfl rfl rfl (by simp)
  | runIOTask =>
    grind [step, runIOTask_served]
  | answer _ _ _ =>
    cases stepped
    exact served.same rfl rfl rfl (by simp [isRequest, isReadOf])

/-- The reads of a job return its response, a read that is pending is completed when the answer
arrives and no other is, and killed jobs are forgotten. -/
structure JobsServed (log : List DataEvent) (backend : URLDataManagerIOSBackend) : Prop where
  bytes : ∀ requestId job response, .requested requestId job ∈ log →
    .answered requestId (some response) ∈ log → bytesRead job log <+: response ∧
      (log.countP (isEndOf job) ≠ 0 → bytesRead job log = response)
  unanswered : ∀ job, bytesRead job log ≠ [] ∨ log.countP (isEndOf job) ≠ 0 →
    ∃ requestId response, .requested requestId job ∈ log ∧
      .answered requestId (some response) ∈ log
  completions : ∀ job, log.countP (isCompletionOf job) ≤ log.countP (isPendingOf job)
  completed : ∀ requestId job, .requested requestId job ∈ log → .arrived requestId ∈ log →
    .killed job ∉ log → log.countP (isCompletionOf job) = log.countP (isPendingOf job)
  removed : ∀ requestId job, .killed job ∈ log → (requestId, job) ∉ backend.pendingRequests

/-- A request that is answered at most once has one answer. -/
theorem answered_unique {one other : Option (List UInt8)}
    (once : log.countP (isAnswerTo requestId) ≤ 1) (mem : .answered requestId one ∈ log)
    (mem' : .answered requestId other ∈ log) : one = other := by
  rw [List.countP_eq_length_filter] at once
  have first : DataEvent.answered requestId one ∈ log.filter (isAnswerTo requestId) :=
    List.mem_filter.mpr ⟨mem, decide_eq_true rfl⟩
  have second : DataEvent.answered requestId other ∈ log.filter (isAnswerTo requestId) :=
    List.mem_filter.mpr ⟨mem', decide_eq_true rfl⟩
  obtain ⟨event, single⟩ := List.length_eq_one_iff.mp
    (Nat.le_antisymm once (List.length_pos_of_mem first))
  grind

theorem Served.jobsServed (served : Served log backend) (answers : Answers log backend) :
    JobsServed log backend := by
  have once : ∀ requestId, log.countP (isAnswerTo requestId) ≤ 1 := by
    intro requestId
    have once := answers.once requestId
    grind [answersTo]
  refine ⟨fun requestId job response asked answered => ?_, fun job read => ?_, fun job => ?_,
    fun requestId job asked arrived live => ?_, fun requestId job dead mem => ?_⟩
  · cases served.phases job with
    | waiting _ _ _ _ reads noEnd | failed _ _ _ _ reads noEnd =>
      simp [reads.bytes, noEnd]
    | serving number _ _ asked' answered' _ _ _ _ _ reads _ =>
      cases served.unique requestId number job asked asked'
      cases answered_unique (once requestId) answered answered'
      grind [reads.bytes]
  · cases served.phases job with
    | waiting _ _ _ _ reads noEnd | failed _ _ _ _ reads noEnd =>
      exact (read.elim (fun some => some reads.bytes) fun ended => ended noEnd).elim
    | serving number bytes _ asked answered => exact ⟨number, bytes, asked, answered⟩
  · cases served.phases job with
    | waiting _ _ _ _ reads =>
      simp [reads.completed]
    | failed _ _ _ _ reads => exact Nat.le_of_eq (reads.completed.trans reads.pending.symm)
    | serving _ _ _ _ _ _ _ _ _ _ reads =>
      exact Nat.le_of_eq (reads.completed.trans reads.pending.symm)
  · have done : ¬Waits (backend.jobs job) := by
      rcases (served.requested requestId job asked).2.2 with dead | waiting | ⟨-,
        done⟩ <;> grind [served.requested, served.killed, served.pending]
    cases served.phases job with
    | waiting data pendingBuf => exact absurd ⟨data, pendingBuf⟩ done
    | failed _ _ _ pending reads | serving _ _ pending _ _ _ _ _ _ _ reads =>
      exact reads.completed.trans reads.pending.symm
  · have live := (served.pending requestId job mem).2.2.1
    rw [(served.killed job).mp dead] at live
    cases live

theorem served_initial (sources : Nat → URLDataSource) :
    Served [] (initial sources) ∧ Answers [] (initial sources) := by
  obtain ⟨dataSources, hasBackend, same⟩ := addDataSource_frame sources
    { nextRequestId := 0, pendingRequests := [], dataSources := fun _ => none,
      hasBackend := fun _ => false, jobs := fun _ => .initial, ui := [], io := [], asked := [] } 0
  unfold initial
  rw [same]
  constructor
  · refine ⟨fun job => .waiting rfl rfl (fun _ none => by cases none) rfl ⟨rfl, rfl, rfl⟩ rfl,
      by simp [URLRequestChromeJob.initial],
      fun job _ => ⟨rfl, rfl⟩, fun _ _ mem => absurd mem List.not_mem_nil, List.nodup_nil,
      List.nodup_nil, fun _ _ mem => absurd mem List.not_mem_nil,
      fun _ _ _ mem => absurd mem List.not_mem_nil⟩
  · exact ⟨fun _ _ _ mem => absurd mem List.not_mem_nil,
      fun _ mem => absurd mem List.not_mem_nil, fun _ => Nat.zero_le _⟩

/-- When the answers can be served, the jobs are. -/
theorem run_jobsServed (run : Runs (step sources)
      (fun backend input => backend.Offered input ∧ CanServe backend input) (initial sources)
      log backend) : JobsServed log backend := by
  have holds : Served log backend ∧ Answers log backend := by
    refine run.invariant_outputs (fun log backend => Served log backend ∧ Answers log backend)
      (served_initial sources) ?_
    grind [step_served, step_answers]
  exact holds.1.jobsServed holds.2

instance (job : URLRequestChromeJob) :
    (bytes : Option (List UInt8)) → Decidable (Servable job bytes)
  | none => inferInstanceAs (Decidable (_ = true))
  | some bytes => inferInstanceAs (Decidable (bytes.length < 2 ^ 31))

instance (backend : URLDataManagerIOSBackend) :
    (input : Input) → Decidable (CanServe backend input)
  | .runIOTask =>
    match head : backend.io.head? with
    | some (.sendResponse source requestId bytes) =>
      decidable_of_iff
        (∀ entry ∈ backend.pendingRequests, entry.1 = requestId →
          backend.hasBackend source = true ∧ Servable (backend.jobs entry.2) bytes)
        (by grind [CanServe])
    | none | some (.mimeTypeAvailable _ _ _) =>
      isTrue fun source requestId bytes job same => by cases head.symm.trans same
  | .read _ _ => inferInstanceAs (Decidable (_ ∧ _))
  | .start _ _ | .kill _ | .addDataSource _ | .runUITask | .answer _ _ _ => isTrue trivial

/-- The shared source and sources of one name that replace each other. -/
def settingsSources : Nat → URLDataSource
  | 0 => ⟨"resources", false, fun _ => true, fun _ => "text/html"⟩
  | _ => ⟨"settings", true, fun _ => true, fun _ => "text/html"⟩

def settingsURL : ChromeURL :=
  ⟨true, true, "settings", "chrome", "index.html"⟩

/-- A read before the answer and two after it. -/
theorem run_jobsServed_settings : ∃ log : List DataEvent,
    bytesRead 0 log <+: [1, 2, 3, 4, 5] ∧ bytesRead 0 log = [1, 2, 3, 4, 5] ∧
      log.countP (isCompletionOf 0) = 1 := by
  have idle : Runs (step settingsSources)
      (fun backend input => backend.Offered input ∧ CanServe backend input)
      (initial settingsSources) [] (initial settingsSources) := .start
  have served := run_jobsServed (idle.replay
    [.addDataSource 1, .start 0 settingsURL, .runUITask, .runUITask, .read 0 4, .runIOTask,
      .answer 1 0 (some [1, 2, 3, 4, 5]), .runIOTask, .read 0 4, .read 0 4]
    (Option.eq_some_of_isSome (by decide +kernel)))
  have response := served.bytes 0 0 [1, 2, 3, 4, 5] (by decide +kernel) (by decide +kernel)
  exact ⟨_, response.1, response.2 (by decide +kernel), by decide +kernel⟩

/-- The source is replaced while a job reads from it, and its answer is dropped. -/
theorem run_jobAbandoned : ¬ ∀ (log : List DataEvent) (backend : URLDataManagerIOSBackend),
    Runs (step settingsSources) Offered (initial settingsSources) log backend →
      JobsServed log backend := by
  intro served
  have idle : Runs (step settingsSources) Offered (initial settingsSources) []
    (initial settingsSources) := .start
  have abandoned := served _ _ (idle.replay
    [.addDataSource 1, .start 0 settingsURL, .runUITask, .runUITask, .runIOTask, .read 0 4,
      .addDataSource 2, .answer 1 0 (some [1, 2, 3, 4, 5]), .runIOTask]
    (Option.eq_some_of_isSome (by decide +kernel)))
  have completed := abandoned.completed 0 0 (by decide +kernel) (by decide +kernel)
    (by decide +kernel)
  exact absurd completed (by decide +kernel)

end URLDataManagerIOSBackend

end ChromiumIos
