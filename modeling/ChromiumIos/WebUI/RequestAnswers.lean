import ChromiumIos.WebUI.RequestPhases

/-!
# Answers to requests

Each request is answered at most once, however the two threads and the sources take turns, and
what arrives on the IO thread was answered.
-/

namespace ChromiumIos

open Lib DataEvent URLRequestChromeJob

def DataUITask.isStartOf (requestId : Nat) : DataUITask → Bool
  | .callStartRequest _ _ other => other = requestId
  | .getMimeType _ _ _ => false

namespace URLDataManagerIOSBackend

variable {sources : Nat → URLDataSource} {backend after : URLDataManagerIOSBackend}
variable {log events : List DataEvent} {input : Input} {job requestId : Nat}

def answersTo (backend : URLDataManagerIOSBackend) (log : List DataEvent) (requestId : Nat) : Nat :=
  backend.ui.countP (DataUITask.isStartOf requestId) +
    backend.asked.countP (fun entry => entry.2 = requestId) + log.countP (isAnswerTo requestId)

structure Answers (log : List DataEvent) (backend : URLDataManagerIOSBackend) : Prop where
  io : ∀ source requestId bytes, .sendResponse source requestId bytes ∈ backend.io →
    .answered requestId bytes ∈ log
  arrived : ∀ requestId, .arrived requestId ∈ log → ∃ bytes, .answered requestId bytes ∈ log
  once : ∀ requestId,
    backend.answersTo log requestId ≤ if requestId < backend.nextRequestId then 1 else 0

variable {url : ChromeURL}

/-- What `start` does: it fails for want of a source, or adds one request. -/
theorem start_cases (started : backend.start sources job url = some (after, events)) :
    (events = [.startError job] ∧
      after = backend.setJob job { backend.jobs job with hasBackend := true }) ∨
    ∃ source path, events = [.requested backend.nextRequestId job] ∧ after =
      { backend.setJob job { backend.jobs job with hasBackend := true } with
        nextRequestId := backend.nextRequestId + 1
        pendingRequests := backend.pendingRequests ++ [(backend.nextRequestId, job)]
        ui := backend.ui ++ [.getMimeType source path job,
          .callStartRequest source path backend.nextRequestId] } := by
  obtain ⟨⟨middle, request⟩, asked, returned⟩ := bind_eq_some started
  grind [setJob, startRequest]

/-- Steps that move no answer. -/
theorem Answers.same (answers : Answers log backend) (ui : after.ui = backend.ui)
    (asked : after.asked = backend.asked) (io : ∀ task ∈ after.io, task ∈ backend.io ∨
      ∃ job source mimeType, task = .mimeTypeAvailable job source mimeType)
    (next : after.nextRequestId = backend.nextRequestId)
    (noAnswer : ∀ event ∈ events, ∀ requestId, event.isAnswerTo requestId = false)
    (arrived : ∀ requestId, .arrived requestId ∈ events →
      ∃ bytes, .answered requestId bytes ∈ log) : Answers (log ++ events) after := by
  refine ⟨fun source requestId bytes mem => ?_, fun requestId mem => ?_, fun requestId => ?_⟩
  · grind [answers.io]
  · grind [answers.arrived]
  · have none : events.countP (isAnswerTo requestId) = 0 :=
      by grind
    have once := answers.once requestId
    simpa [answersTo, ui, asked, next, none] using once

theorem start_answers (answers : Answers log backend)
    (started : backend.start sources job url = some (after, events)) :
    Answers (log ++ events) after := by
  rcases start_cases started with ⟨rfl, rfl⟩ | ⟨source, path, rfl, rfl⟩
  · grind [setJob, isAnswerTo, answers.same]
  · refine ⟨fun source requestId bytes mem => ?_, fun requestId mem => ?_, fun requestId => ?_⟩
    · exact List.mem_append_left _ (answers.io source requestId bytes mem)
    · grind [answers.arrived]
    · have once := answers.once requestId
      unfold answersTo at once ⊢
      change (backend.ui ++ [_, _]).countP _ + backend.asked.countP _ + (log ++ [_]).countP _ ≤
        if requestId < backend.nextRequestId + 1 then 1 else 0
      by_cases new : backend.nextRequestId = requestId
      · subst new
        grind [DataUITask.isStartOf, isAnswerTo]
      · have same : (requestId < backend.nextRequestId + 1) =
            (requestId < backend.nextRequestId) := by
          simp; omega
        simp [same, DataUITask.isStartOf, isAnswerTo, new, once]

/-- A read of a job, as `readRawData` has it. -/
theorem read_cases {bufSize : Int} (read : backend.read job bufSize = some (after, events)) :
    ∃ next, (backend.jobs job).readRawData job bufSize = some (next, events) ∧
      after = backend.setJob job next := by
  obtain ⟨⟨next, returned⟩, inner, same⟩ := bind_eq_some read
  grind

/-- An answer arrives: its request is not pending, or it is served to its job. -/
theorem dataAvailable_cases (backend : URLDataManagerIOSBackend) (requestId : Nat)
    (bytes : Option (List UInt8)) :
    ((∀ entry ∈ backend.pendingRequests, entry.1 ≠ requestId) ∧
      backend.dataAvailable requestId bytes = (backend, [])) ∨
    ∃ job, (requestId, job) ∈ backend.pendingRequests ∧
      backend.dataAvailable requestId bytes =
        ({ backend.setJob job ((backend.jobs job).dataAvailable job bytes).1 with
            pendingRequests := backend.pendingRequests.eraseP fun entry => entry.1 = requestId },
          ((backend.jobs job).dataAvailable job bytes).2) := by
  unfold dataAvailable
  cases found : backend.pendingRequests.find? (fun entry => entry.1 = requestId) with
  | none =>
    grind
  | some entry =>
    obtain ⟨number, job⟩ := entry
    have same : number = requestId := by simpa using List.find?_some found
    refine Or.inr ⟨job, ?_, rfl⟩
    grind

theorem runIOTask_answers {task : DataIOTask} {rest : List DataIOTask}
    (answers : Answers log backend)
    (io : backend.io = task :: rest)
    (performed : ({ backend with io := rest } : URLDataManagerIOSBackend).performIOTask task =
      (after, events)) : Answers (log ++ events) after := by
  have others : ∀ task ∈ rest, task ∈ backend.io ∨
      ∃ job source mimeType, task = .mimeTypeAvailable job source mimeType := by
    grind
  unfold performIOTask at performed
  cases task with
  | mimeTypeAvailable _ _ _ =>
    grind [answers.same, mimeTypeAvailable, setJob, isAnswerTo]
  | sendResponse _ requestId bytes =>
    have answered : .answered requestId bytes ∈ log := by
      grind [List.mem_cons_self, answers.io]
    have arrived : ∀ more : List DataEvent, (∀ other, .arrived other ∉ more) →
        ∀ other, .arrived other ∈ DataEvent.arrived requestId :: more →
          ∃ bytes, .answered other bytes ∈ log := by
      grind
    dsimp only at performed
    split at performed
    · cases performed
      rcases dataAvailable_cases ({ backend with io := rest } : URLDataManagerIOSBackend)
        requestId bytes with ⟨-, same⟩ | ⟨job, -, same⟩
      · grind [isAnswerTo, answers.same]
      · rw [same]
        obtain ⟨reads, -⟩ := dataAvailable_frame job (backend.jobs job) bytes
        refine answers.same rfl rfl others rfl ?_ (arrived _ fun other => reads.notMem rfl)
        simpa [isAnswerTo] using reads.noAnswer
    · grind [isAnswerTo, answers.same]

theorem runUITask_answers {task : DataUITask} {rest : List DataUITask}
    (answers : Answers log backend)
    (ui : backend.ui = task :: rest) : Answers (log ++ [])
      (({ backend with ui := rest } : URLDataManagerIOSBackend).performUITask sources task) := by
  obtain ⟨io, arrived, once⟩ := answers
  rw [List.append_nil]
  cases task with
  | getMimeType source _ _ =>
    refine ⟨fun source requestId bytes mem => ?_, arrived, fun requestId => ?_⟩
    · refine io source requestId bytes ((List.mem_append.mp mem).resolve_right (by simp))
    · have once := once requestId
      unfold answersTo at once
      rw [ui] at once
      exact once
  | callStartRequest source _ number =>
    refine ⟨io, arrived, fun requestId => ?_⟩
    have once := once requestId
    unfold answersTo at once ⊢
    rw [ui, List.countP_cons] at once
    change rest.countP _ + (backend.asked ++ [(source, number)]).countP _ + _ ≤
      if requestId < backend.nextRequestId then 1 else 0
    rw [List.countP_append, List.countP_singleton]
    by_cases same : number = requestId
    · simp only [DataUITask.isStartOf, same, decide_true, if_true] at once ⊢
      omega
    · simpa [DataUITask.isStartOf, same] using once

theorem answer_answers {source : Nat} {bytes : Option (List UInt8)}
    (answers : Answers log backend) (asked : (source, requestId) ∈ backend.asked) :
    Answers (log ++ [.answered requestId bytes])
      { backend with
        asked := backend.asked.erase (source, requestId)
        io := backend.io ++ [.sendResponse source requestId bytes] } := by
  obtain ⟨io, arrived, once⟩ := answers
  refine ⟨fun other number more mem => ?_, fun number mem => ?_, fun number => ?_⟩
  · grind
  · grind
  · have once := once number
    unfold answersTo at once ⊢
    have taken := (List.perm_cons_erase asked).countP_eq (fun entry => entry.2 = number)
    rw [List.countP_cons] at taken
    rw [List.countP_append, List.countP_singleton]
    by_cases same : requestId = number
    · grind
    · simp only [isAnswerTo, same, decide_false] at once taken ⊢
      simp at taken ⊢
      omega

theorem addDataSource_frame (sources : Nat → URLDataSource) (backend : URLDataManagerIOSBackend)
    (source : Nat) : ∃ dataSources hasBackend, backend.addDataSource sources source =
      { backend with dataSources := dataSources, hasBackend := hasBackend } := by
  unfold addDataSource
  dsimp only
  split
  · exact ⟨_, _, rfl⟩
  · split <;> grind

theorem step_answers (answers : Answers log backend) (offered : backend.Offered input)
    (stepped : backend.step sources input = some (after, events)) :
    Answers (log ++ events) after := by
  cases input with
  | start _ _ => exact start_answers answers stepped
  | read _ _ =>
    obtain ⟨next, read, rfl⟩ := read_cases stepped
    obtain ⟨reads, -⟩ := readRawData_frame read
    exact answers.same rfl rfl (fun _ => Or.inl) rfl reads.noAnswer
      fun _ mem => absurd mem (reads.notMem rfl)
  | kill _ =>
    cases stepped
    grind [removeRequest, setJob, isAnswerTo, answers.same]
  | addDataSource source =>
    obtain ⟨dataSources, hasBackend, same⟩ := addDataSource_frame sources backend source
    cases stepped
    grind [answers.same]
  | runUITask =>
    grind [step, runUITask_answers]
  | runIOTask =>
    grind [step, runIOTask_answers]
  | answer _ _ _ =>
    cases stepped
    exact answer_answers answers offered

end URLDataManagerIOSBackend

end ChromiumIos
