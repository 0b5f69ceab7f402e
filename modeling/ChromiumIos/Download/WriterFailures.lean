import ChromiumIos.Download.DownloadTask

/-!
# Failures of the response writer

A writer answers `Write` and `Finish` with a count or an error, at once or by a callback.  The
task hears of some of these answers only: it takes a failed `Write` of a data URL for a number of
bytes, drops the result of a `Write` of the session, and of `Finish` it hears the callback but
not what is returned.
-/

namespace ChromiumIos

open Lib

/-- What a call of the writer returns: `none` for `ERR_IO_PENDING`. -/
abbrev WriterAnswer := Option Int

/-- The events of a download task with what its writer answers to the calls that they lead to,
and the callbacks of the writer with their results. -/
inductive WriterInput where
  | start (written finished : WriterAnswer)
  | cancel
  | cookies (attempt : Nat)
  | didReceiveData (attempt : Nat) (data : List UInt8) (written : WriterAnswer)
  | dataWritten (writer : Nat) (result : Int)
  | didProgress (attempt : Nat) (progress : TaskProgress)
  | didComplete (attempt : Nat) (progress : TaskProgress) (finished : WriterAnswer)
  | dataUrlWritten (attempt : Nat) (bytesWritten : Int) (finished : WriterAnswer)
  | writerFinished (attempt : Nat) (result : Int)
deriving DecidableEq, Repr

namespace WriterInput

/-- The event of the task.  The callback of a `Write` of the session only lets the session go
on. -/
def input : WriterInput → Option DownloadTaskImpl.Input
  | start written finished => some (.start written finished.isSome)
  | cancel => some .cancel
  | cookies attempt => some (.cookies attempt)
  | didReceiveData attempt data _ => some (.didReceiveData attempt data)
  | dataWritten _ _ => none
  | didProgress attempt progress => some (.didProgress attempt progress)
  | didComplete attempt progress finished => some (.didComplete attempt progress finished.isSome)
  | dataUrlWritten attempt bytesWritten finished =>
    some (.dataUrlWritten attempt bytesWritten finished.isSome)
  | writerFinished attempt result => some (.writerFinished attempt result)

/-- What `Write` returns if it is called. -/
def written : WriterInput → WriterAnswer
  | start written _ => written
  | didReceiveData _ _ written => written
  | _ => none

def finished : WriterInput → WriterAnswer
  | start _ finished => finished
  | didComplete _ _ finished => finished
  | dataUrlWritten _ _ finished => finished
  | _ => none

/-- What a callback of the writer is run with. -/
def calledBack : WriterInput → Option Int
  | dataWritten _ result => some result
  | dataUrlWritten _ bytesWritten _ => some bytesWritten
  | writerFinished _ result => some result
  | _ => none

end WriterInput

namespace DownloadEffect

def isWrite : DownloadEffect → Bool
  | wrote _ _ _ => true
  | _ => false

def isFinish : DownloadEffect → Bool
  | finishedWriter _ _ _ => true
  | _ => false

end DownloadEffect

def isFailure (result : Int) : Bool :=
  result < 0

def WriterInput.fails (input : WriterInput) (effects : List DownloadEffect) : Bool :=
  effects.any DownloadEffect.isWrite && input.written.any isFailure ||
    effects.any DownloadEffect.isFinish && input.finished.any isFailure ||
      input.calledBack.any isFailure

/-- A task, whether its writer has failed since it was started, and the writers that have a
`Write` of the session pending. -/
structure WriterTask where
  task : DownloadTaskImpl
  failed : Bool
  unwritten : List Nat
deriving DecidableEq, Repr

namespace WriterTask

def initial (totalBytes : Int) (mimeType : String) : WriterTask where
  task := .initial totalBytes mimeType
  failed := false
  unwritten := []

/-- The pending writes of the session after an event. -/
def unwrittenAfter (state : WriterTask) : WriterInput → List DownloadEffect → List Nat
  | .didReceiveData _ _ none, .wrote writer _ _ :: _ => state.unwritten ++ [writer]
  | .dataWritten writer _, _ => state.unwritten.erase writer
  | _, _ => state.unwritten

def failedAfter (state : WriterTask) (input : WriterInput) (effects : List DownloadEffect) :
    Bool :=
  match input with
  | .start _ _ => input.fails effects
  | _ => state.failed || input.fails effects

def step (url : OriginalUrl) (state : WriterTask) (input : WriterInput) :
    Checked (WriterTask × List DownloadEffect) :=
  (match input.input with
    | none => some (state.task, [])
    | some plain => state.task.step url plain).map fun (task, effects) =>
      ({ task := task
         failed := state.failedAfter input effects
         unwritten := state.unwrittenAfter input effects }, effects)

def Counts (progress : TaskProgress) : Prop :=
  0 ≤ progress.countOfBytesReceived ∧ -1 ≤ progress.countOfBytesExpectedToReceive
deriving Decidable

/-- Events come as they do for the task alone.  A result is not `ERR_IO_PENDING`, and the callback
of a `Write` of the session comes while it is pending. -/
def Accepts (state : WriterTask) : WriterInput → Prop
  | .start written finished =>
    state.task.Accepts (.start written finished.isSome) ∧ written ≠ some (-1) ∧
      finished ≠ some (-1)
  | .cancel => state.task.Accepts .cancel
  | .cookies attempt => state.task.Accepts (.cookies attempt)
  | .didReceiveData attempt data written =>
    state.task.Accepts (.didReceiveData attempt data) ∧ written ≠ some (-1)
  | .dataWritten writer result => writer ∈ state.unwritten ∧ result ≠ -1
  | .didProgress attempt progress =>
    state.task.Accepts (.didProgress attempt progress) ∧ Counts progress
  | .didComplete attempt progress finished =>
    state.task.Accepts (.didComplete attempt progress finished.isSome) ∧ Counts progress ∧
      finished ≠ some (-1)
  | .dataUrlWritten attempt bytesWritten finished =>
    state.task.Accepts (.dataUrlWritten attempt bytesWritten finished.isSome) ∧
      bytesWritten ≠ -1 ∧ finished ≠ some (-1)
  | .writerFinished attempt result =>
    state.task.Accepts (.writerFinished attempt result) ∧ result ≠ -1

instance (state : WriterTask) : (input : WriterInput) → Decidable (state.Accepts input)
  | .start _ _ | .didComplete _ _ _ | .dataUrlWritten _ _ _ =>
    inferInstanceAs (Decidable (_ ∧ _ ∧ _))
  | .didReceiveData _ _ _ | .dataWritten _ _ | .didProgress _ _ | .writerFinished _ _ =>
    inferInstanceAs (Decidable (_ ∧ _))
  | .cancel => inferInstanceAs (Decidable (state.task.Accepts .cancel))
  | .cookies attempt => inferInstanceAs (Decidable (state.task.Accepts (.cookies attempt)))

/-! ## What is reported -/

/-- A task that is complete has an error if its writer has failed, and no count is negative but
for the unknown one. -/
structure Reported (state : WriterTask) : Prop where
  errorCode : state.task.state = .complete → state.failed = true → state.task.errorCode ≠ 0
  receivedBytes : -1 ≤ state.task.receivedBytes
  totalBytes : -1 ≤ state.task.totalBytes

def Reports (url : OriginalUrl) (state : WriterTask) : WriterInput → Prop
  | .start written finished =>
    match url with
    | .network => True
    | .data none => True
    | .data (some _) => ∀ count ∈ written, 0 ≤ count ∧ ∀ result ∈ finished, 0 ≤ result
  | .cancel => True
  | .cookies _ => True
  | .didReceiveData _ _ written =>
    state.task.state = .complete → ∀ result ∈ written, result < 0 → state.task.errorCode ≠ 0
  | .dataWritten _ result =>
    state.task.state = .complete → result < 0 → state.task.errorCode ≠ 0
  | .didProgress _ progress =>
    state.task.state = .complete → state.failed = true → progress.errorCode ≠ 0
  | .didComplete _ progress none =>
    state.task.state = .complete → state.failed = true → progress.errorCode ≠ 0
  | .didComplete _ progress (some result) =>
    state.failed = true ∨ result < 0 → progress.errorCode ≠ 0
  | .dataUrlWritten _ bytesWritten finished =>
    0 ≤ bytesWritten ∧ ∀ result ∈ finished, state.failed = false ∧ 0 ≤ result
  | .writerFinished _ result => state.failed = true → result ≠ 0

instance (url : OriginalUrl) (state : WriterTask) :
    (input : WriterInput) → Decidable (Reports url state input)
  | .start written finished =>
    match url with
    | .network => inferInstanceAs (Decidable True)
    | .data none => inferInstanceAs (Decidable True)
    | .data (some _) =>
      inferInstanceAs (Decidable (∀ count ∈ written, 0 ≤ count ∧ ∀ result ∈ finished, _ ≤ _))
  | .cancel | .cookies _ => inferInstanceAs (Decidable True)
  | .didReceiveData _ _ written =>
    inferInstanceAs (Decidable (_ → ∀ result ∈ written, result < 0 → _ ≠ _))
  | .dataWritten _ _ => inferInstanceAs (Decidable (_ → _ → _ ≠ _))
  | .didProgress _ _ | .didComplete _ _ none => inferInstanceAs (Decidable (_ → _ → _ ≠ _))
  | .didComplete _ _ (some _) => inferInstanceAs (Decidable (_ ∨ _ → _ ≠ _))
  | .dataUrlWritten _ _ finished =>
    inferInstanceAs (Decidable (_ ≤ _ ∧ ∀ result ∈ finished, _ = _ ∧ _ ≤ _))
  | .writerFinished _ _ => inferInstanceAs (Decidable (_ → _ ≠ _))

/-! ## Steps -/

section Steps

variable {url : OriginalUrl} {task after : DownloadTaskImpl} {state next : WriterTask}
variable {effects : List DownloadEffect} {attempt : Nat} {code : Int} {finished : WriterAnswer}

/-- `Finish` is called, and ends the download unless it is pending. -/
theorem finishWriter_cases
    (called : task.finishWriter attempt code finished.isSome = some (after, effects)) :
    effects.any DownloadEffect.isWrite = false ∧ effects.any DownloadEffect.isFinish = true ∧
      (finished = none ∧ after = { task with
          outstanding := task.outstanding ++ [.finish attempt] } ∨
        ∃ result, finished = some result ∧ after = (task.onDownloadFinished attempt code).1) := by
  obtain ⟨writer, -, called⟩ := Option.bind_eq_some_iff.mp called
  cases finished <;> grind [DownloadEffect.isWrite, DownloadEffect.isFinish,
    DownloadTaskImpl.onDownloadFinished]

variable {unwritten : List Nat} {count : Int} {progress : TaskProgress}
variable {failed : Bool}

/-- What is known then of a writer that had failed before or not. -/
theorem reported_finishWriter_iff
    (called : task.finishWriter attempt code finished.isSome = some (after, effects)) :
    Reported ⟨after, failed || finished.any isFailure, unwritten⟩ ↔
      (finished = none → task.state = .complete → failed = true → task.errorCode ≠ 0) ∧
      (∀ result, finished = some result → failed = true ∨ result < 0 → code ≠ 0) ∧
      -1 ≤ task.receivedBytes ∧ -1 ≤ task.totalBytes := by
  obtain ⟨-, -, ⟨rfl, rfl⟩ | ⟨result, rfl, rfl⟩⟩ := finishWriter_cases called
  · constructor
    · rintro ⟨errorCode, received, total⟩
      grind
    · rintro ⟨errorCode, -, received, total⟩
      refine ⟨fun complete failed => errorCode rfl complete ?_, received, total⟩
      simpa using failed
  · have fails : (failed || (some result).any isFailure) = true ↔ failed = true ∨ result < 0 := by
      simp [isFailure]
    constructor
    · rintro ⟨errorCode, received, total⟩
      refine ⟨nofun, fun other same failing => ?_, received, total⟩
      cases same
      exact errorCode rfl (fails.mpr failing)
    · rintro ⟨-, errorCode, received, total⟩
      exact ⟨fun _ failing => errorCode result rfl (fails.mp failing), received, total⟩

/-- The contents of a data URL have been written, or not. -/
theorem onDataUrlWritten_reported_iff
    (written : task.onDataUrlWritten attempt count finished.isSome = some (after, effects)) :
    effects.any DownloadEffect.isWrite = false ∧ effects.any DownloadEffect.isFinish = true ∧
      (Reported ⟨after, failed || finished.any isFailure, unwritten⟩ ↔
        (finished = none → task.state = .complete → failed = true → task.errorCode ≠ 0) ∧
        (∀ result, finished = some result → failed = false ∧ 0 ≤ result) ∧ -1 ≤ count) := by
  obtain ⟨⟨_, _⟩, called, result⟩ := Option.bind_eq_some_iff.mp written
  cases result
  obtain ⟨unwrote, finishes, -⟩ := finishWriter_cases called
  refine ⟨unwrote, finishes, (reported_finishWriter_iff called).trans ?_⟩
  simp

theorem nonneg_iff (counted : count ≠ -1) : -1 ≤ count ↔ 0 ≤ count := by
  omega

theorem start_reported_iff {written : WriterAnswer} (reported : Reported state)
    (sensible : written ≠ some (-1))
    (started : state.task.start url written finished.isSome = some (after, effects)) :
    Reported ⟨after, (WriterInput.start written finished).fails effects, unwritten⟩ ↔
      Reports url state (.start written finished) := by
  have zero : (-1 : Int) ≤ 0 := by decide
  obtain ⟨-, started⟩ := dcheck_then started
  cases url with
  | network =>
    cases started
    exact iff_of_true ⟨nofun, zero, reported.totalBytes⟩ trivial
  | data parsed =>
    cases parsed with
    | none =>
      cases started
      exact iff_of_true ⟨nofun, zero, reported.totalBytes⟩ trivial
    | some contents =>
      obtain ⟨mimeType, data⟩ := contents
      dsimp only [DownloadTaskImpl.startDataUrlParsing] at started
      obtain ⟨writer, -, started⟩ := Option.bind_eq_some_iff.mp started
      cases written with
      | none =>
        cases started
        exact iff_of_true ⟨nofun, zero, reported.totalBytes⟩ nofun
      | some count =>
        obtain ⟨⟨finishing, more⟩, called, result⟩ := Option.bind_eq_some_iff.mp started
        cases result
        have counted : count ≠ -1 := fun same => sensible (congrArg some same)
        obtain ⟨-, finishes, reported_iff⟩ := onDataUrlWritten_reported_iff called
        have fails : (WriterInput.start (some count) finished).fails
            (.wrote writer state.task.beginAttempt.attempts data :: more) =
              (isFailure count || finished.any isFailure) := by
          simp [WriterInput.fails, WriterInput.written, WriterInput.finished,
            WriterInput.calledBack, DownloadEffect.isWrite, DownloadEffect.isFinish, finishes]
        rw [fails, reported_iff]
        constructor
        · rintro ⟨-, sound, atLeast⟩ other same
          cases same
          exact ⟨(nonneg_iff counted).mp atLeast, fun result answered =>
            (sound result answered).2⟩
        · grind [Reports, isFailure, nonneg_iff]

theorem dataUrlWritten_reported_iff (reported : Reported state) (counted : count ≠ -1)
    (written : state.task.step url (.dataUrlWritten attempt count finished.isSome) =
      some (after, effects)) :
    Reported ⟨after, state.failed ||
        (WriterInput.dataUrlWritten attempt count finished).fails effects, unwritten⟩ ↔
      Reports url state (.dataUrlWritten attempt count finished) := by
  obtain ⟨-, finishes, reported_iff⟩ := onDataUrlWritten_reported_iff
    (show (state.task.settle (.write attempt)).onDataUrlWritten attempt count finished.isSome =
      some (after, effects) from written)
  have fails : (state.failed ||
      (WriterInput.dataUrlWritten attempt count finished).fails effects) =
        ((state.failed || isFailure count) || finished.any isFailure) := by
    simp [WriterInput.fails, WriterInput.written, WriterInput.finished, WriterInput.calledBack,
      finishes, Bool.or_assoc, Bool.or_comm]
  rw [fails, reported_iff]
  constructor
  · rintro ⟨-, sound, atLeast⟩
    refine ⟨(nonneg_iff counted).mp atLeast, fun result answered => ?_⟩
    obtain ⟨unfailed, nonneg⟩ := sound result answered
    grind
  · rintro ⟨nonneg, sound⟩
    have succeeded : isFailure count = false := decide_eq_false (Int.not_lt.mpr nonneg)
    simpa [succeeded] using ⟨fun _ => reported.errorCode, sound, (nonneg_iff counted).mpr nonneg⟩

/-- The counters and the error code of the session task. -/
theorem setProperties_counters (set : task.setProperties progress = some after) :
    after.state = task.state ∧ after.errorCode = progress.errorCode ∧
      after.receivedBytes = progress.countOfBytesReceived ∧
      (after.totalBytes = progress.countOfBytesExpectedToReceive ∨
        after.totalBytes = task.totalBytes) := by
  obtain ⟨percent, -, result⟩ := Option.bind_eq_some_iff.mp set
  grind

theorem setProperties_counts (counts : Counts progress) (reported : Reported state)
    (set : state.task.setProperties progress = some after) :
    -1 ≤ after.receivedBytes ∧ -1 ≤ after.totalBytes := by
  obtain ⟨-, -, received, total⟩ := setProperties_counters set
  have known := reported.totalBytes
  obtain ⟨nonneg, expected⟩ := counts
  omega

theorem didProgress_reported_iff (reported : Reported state) (counts : Counts progress)
    (performed : state.task.propertiesBlock attempt progress = some (after, effects)) :
    Reported ⟨after, state.failed || (WriterInput.didProgress attempt progress).fails effects,
        unwritten⟩ ↔
      Reports url state (.didProgress attempt progress) := by
  obtain ⟨set, returned, result⟩ := Option.bind_eq_some_iff.mp performed
  cases result
  obtain ⟨received, total⟩ := setProperties_counts counts reported returned
  obtain ⟨same, code, -⟩ := setProperties_counters returned
  have fails : (WriterInput.didProgress attempt progress).fails
      [.setCounters after.attempts attempt, .updated] = false := rfl
  rw [fails, Bool.or_false]
  constructor
  · rintro ⟨errorCode, -, -⟩ complete failed
    grind
  · intro reports
    refine ⟨fun complete failed => ?_, received, total⟩
    simpa [code] using reports (same.symm.trans complete) failed

theorem didComplete_reported_iff (reported : Reported state) (counts : Counts progress)
    (performed : (state.task.settle (.sessionTask attempt)).propertiesBlockTerminal attempt progress
      finished.isSome = some (after, effects)) :
    Reported ⟨after,
        state.failed || (WriterInput.didComplete attempt progress finished).fails effects,
        unwritten⟩ ↔
      Reports url state (.didComplete attempt progress finished) := by
  obtain ⟨set, returned, performed⟩ := Option.bind_eq_some_iff.mp performed
  obtain ⟨⟨_, more⟩, called, result⟩ := Option.bind_eq_some_iff.mp performed
  cases result
  have settled : Reported { state with task := state.task.settle (.sessionTask attempt) } :=
    ⟨reported.errorCode, reported.receivedBytes, reported.totalBytes⟩
  obtain ⟨received, total⟩ := setProperties_counts counts settled returned
  obtain ⟨same, code, -⟩ := setProperties_counters returned
  obtain ⟨-, finishes, -⟩ := finishWriter_cases called
  have fails : (WriterInput.didComplete attempt progress finished).fails
      (.setCounters set.attempts attempt :: more) = finished.any isFailure := by
    simp [WriterInput.fails, WriterInput.written, WriterInput.finished, WriterInput.calledBack,
      finishes]
  rw [fails, reported_finishWriter_iff called, code, same]
  cases finished <;> simp [DownloadTaskImpl.settle, Reports, received, total]

/-- A step reports what has happened to the writer exactly under its condition. -/
theorem step_reported_iff {input : WriterInput} (reported : Reported state)
    (accepted : state.Accepts input) (stepped : step url state input = some (next, effects)) :
    Reported next ↔ Reports url state input := by
  obtain ⟨⟨_, _⟩, performed, result⟩ := Option.map_eq_some_iff.mp stepped
  cases result
  cases input with
  | start _ _ => exact start_reported_iff reported accepted.2.1 performed
  | cancel =>
    cases performed
    exact iff_of_true ⟨nofun, reported.receivedBytes, reported.totalBytes⟩ trivial
  | cookies _ =>
    obtain ⟨-, performed⟩ := dcheck_then performed
    cases performed
    refine iff_of_true ⟨fun complete failed => reported.errorCode complete ?_,
      reported.receivedBytes, reported.totalBytes⟩ trivial
    exact (Bool.or_false _).symm.trans failed
  | didReceiveData attempt data written =>
    obtain ⟨writer, -, performed⟩ := Option.bind_eq_some_iff.mp performed
    cases performed
    have failed_iff : state.failed ||
        (WriterInput.didReceiveData attempt data written).fails [.wrote writer attempt data] ↔
          state.failed = true ∨ ∃ result, written = some result ∧ result < 0 := by
      cases written <;> simp [WriterInput.fails, WriterInput.written, WriterInput.finished,
        WriterInput.calledBack, DownloadEffect.isWrite, isFailure]
    constructor
    · exact fun sound complete result answered failing =>
        sound.errorCode complete (failed_iff.mpr (.inr ⟨result, answered, failing⟩))
    · refine fun reports => ⟨fun complete failed => ?_, reported.receivedBytes,
        reported.totalBytes⟩
      rcases failed_iff.mp failed with failed | ⟨result, answered, failing⟩
      · exact reported.errorCode complete failed
      · exact reports complete result answered failing
  | dataWritten writer result =>
    cases performed
    have failed_iff : state.failed || (WriterInput.dataWritten writer result).fails [] ↔
        state.failed = true ∨ result < 0 := by
      simp [WriterInput.fails, WriterInput.calledBack, isFailure]
    constructor
    · exact fun sound complete failing =>
        sound.errorCode complete (failed_iff.mpr (.inr failing))
    · refine fun reports => ⟨fun complete failed => ?_, reported.receivedBytes,
        reported.totalBytes⟩
      rcases failed_iff.mp failed with failed | failing
      · exact reported.errorCode complete failed
      · exact reports complete failing
  | didProgress _ _ => exact didProgress_reported_iff reported accepted.2 performed
  | didComplete _ _ _ =>
    exact didComplete_reported_iff reported accepted.2.1 performed
  | dataUrlWritten _ _ _ =>
    exact dataUrlWritten_reported_iff reported accepted.2.1 performed
  | writerFinished attempt result =>
    cases performed
    have failed_iff : state.failed || (WriterInput.writerFinished attempt result).fails
        [.completed state.task.attempts attempt, .updated] ↔
          state.failed = true ∨ result < 0 := by
      simp [WriterInput.fails, WriterInput.calledBack, WriterInput.written,
        WriterInput.finished, isFailure]
    constructor
    · exact fun sound failed => sound.errorCode rfl (failed_iff.mpr (.inl failed))
    · refine fun reports => ⟨fun _ failed => ?_, reported.receivedBytes, reported.totalBytes⟩
      rcases failed_iff.mp failed with failed | failing
      · exact reports failed
      · exact Int.ne_of_lt failing

end Steps

/-! ## Whole runs -/

abbrev WriterRun (url : OriginalUrl) (totalBytes : Int) (mimeType : String) :
    List DownloadEffect → WriterTask → Prop :=
  Runs (step url) Accepts (initial totalBytes mimeType)

abbrev ReportingRun (url : OriginalUrl) (totalBytes : Int) (mimeType : String) :
    List DownloadEffect → WriterTask → Prop :=
  Runs (step url) (fun state input => state.Accepts input ∧ Reports url state input)
    (initial totalBytes mimeType)

/-- Along these runs the failures of the writer are reported, and the next step leaves them so
exactly when it meets the condition too. -/
theorem reported_iff_reports {url : OriginalUrl} {totalBytes : Int} {mimeType : String}
    {effects : List DownloadEffect} {state : WriterTask} (known : -1 ≤ totalBytes)
    (run : ReportingRun url totalBytes mimeType effects state) :
    Reported state ∧ ∀ input next more, state.Accepts input →
      step url state input = some (next, more) → (Reported next ↔ Reports url state input) := by
  have reported : Reported state := by
    have zero : (-1 : Int) ≤ 0 := by decide
    refine run.invariant Reported ⟨nofun, zero, known⟩ ?_
    grind [step_reported_iff]
  grind [step_reported_iff]

def completed : TaskProgress := ⟨0, 1, 1, none, none⟩

def lost : TaskProgress := ⟨-2, 1, 1, none, none⟩

/-- A `Write` fails in a download whose session task fails too. -/
theorem reported_iff_reports_lost :
    ∃ effects state, ReportingRun .network (-1) "" effects state ∧ state.failed = true ∧
      state.task.errorCode = -2 ∧ Reported state := by
  have run : ReportingRun .network (-1) "" _ _ :=
    Runs.replay [.start none none, .cookies 1, .didReceiveData 1 [102] (some (-2)),
      .didComplete 1 lost (some 0)] .start (Option.eq_some_of_isSome (by decide))
  exact ⟨_, _, run, by decide, by decide, (reported_iff_reports (by decide) run).1⟩

/-- A data URL whose contents could not be written is complete without an error, with a negative
count, and a download is whose contents could not be written, or whose writer could not finish. -/
theorem not_reported_failures :
    (∃ effects state, WriterRun (.data (some ("text/plain", [102]))) (-1) "" effects state ∧
      state.failed = true ∧ state.task.state = .complete ∧ state.task.errorCode = 0 ∧
      state.task.totalBytes = -2 ∧ ¬ Reported state) ∧
    (∃ effects state, WriterRun .network (-1) "" effects state ∧
      state.failed = true ∧ state.task.state = .complete ∧ state.task.errorCode = 0 ∧
      ¬ Reported state) ∧
    ∃ effects state, WriterRun .network (-1) "" effects state ∧
      state.failed = true ∧ state.task.state = .complete ∧ state.task.errorCode = 0 ∧
      ¬ Reported state := by
  have parsed : WriterRun (.data (some ("text/plain", [102]))) (-1) "" _ _ :=
    Runs.replay [.start (some (-2)) (some 0)] .start (Option.eq_some_of_isSome (by decide))
  have unwritten : WriterRun .network (-1) "" _ _ :=
    Runs.replay [.start none none, .cookies 1, .didReceiveData 1 [102] (some (-2)),
      .didComplete 1 completed (some 0)] .start (Option.eq_some_of_isSome (by decide))
  have unfinished : WriterRun .network (-1) "" _ _ :=
    Runs.replay [.start none none, .cookies 1, .didReceiveData 1 [102] (some 1),
      .didComplete 1 completed (some (-2))] .start (Option.eq_some_of_isSome (by decide))
  refine ⟨⟨_, _, parsed, by decide, by decide, by decide, by decide, ?_⟩,
    ⟨_, _, unwritten, by decide, by decide, by decide, ?_⟩,
    ⟨_, _, unfinished, by decide, by decide, by decide, ?_⟩⟩
  · exact fun reported => reported.errorCode (by decide) (by decide) (by decide)
  · exact fun reported => reported.errorCode (by decide) (by decide) (by decide)
  · exact fun reported => reported.errorCode (by decide) (by decide) (by decide)

end WriterTask

end ChromiumIos
