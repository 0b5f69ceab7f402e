import ChromiumIos.Lib.Runs

/-!
# Download tasks

A download task can be started, cancelled and started again.  Each start is an
attempt of its own, with a writer of its own, but all attempts share one
session whose callbacks do not say which attempt they belong to.  What an
attempt waits for is recorded as outstanding: the cookies, the session task, or
a write or the end of its writer.

Every call and callback runs on one thread.  A callback can come at any time
while it is outstanding; the data of a session task and its progress can come
until it completes.  Effects name the attempt that the event belongs to beside
the attempt whose writer, counters or state they reach.
-/

namespace ChromiumIos

open Lib

inductive DownloadState where
  | notStarted
  | inProgress
  | cancelled
  | complete
deriving DecidableEq, Repr

/-- What the session says of one of its tasks.  The error code is the translated one, zero if
there is no error. -/
structure TaskProgress where
  errorCode : Int
  countOfBytesReceived : Int
  countOfBytesExpectedToReceive : Int
  mimeType : Option String
  statusCode : Option Int
deriving DecidableEq, Repr

variable (progress : TaskProgress)

/-- The session never receives more than it expects, when it knows what to expect. -/
def TaskProgress.Plausible : Prop :=
  progress.countOfBytesExpectedToReceive = 0 ∨ progress.countOfBytesExpectedToReceive = -1 ∨
    progress.countOfBytesReceived ≤ progress.countOfBytesExpectedToReceive

instance : Decidable progress.Plausible :=
  inferInstanceAs (Decidable (_ ∨ _ ∨ _))

/-- A data URL is not downloaded but parsed. -/
inductive OriginalUrl where
  | network
  | data (parsed : Option (String × List UInt8))
deriving DecidableEq, Repr

inductive Outstanding where
  | cookies (attempt : Nat)
  | sessionTask (attempt : Nat)
  | write (attempt : Nat)
  | finish (attempt : Nat)
deriving DecidableEq, Repr

namespace Outstanding

def attempt : Outstanding → Nat
  | cookies attempt | sessionTask attempt | write attempt | finish attempt => attempt

end Outstanding

inductive DownloadEffect where
  | createdSessionTask (current attempt : Nat) (state : DownloadState)
  | wrote (writer attempt : Nat) (data : List UInt8)
  | finishedWriter (writer attempt : Nat) (errorCode : Int)
  | setCounters (current attempt : Nat)
  | completed (current attempt : Nat)
  | updated
deriving DecidableEq, Repr

namespace DownloadEffect

/-- The effect reaches the attempt that its event belongs to, and a session task is created only
for an attempt in progress. -/
def Own : DownloadEffect → Prop
  | createdSessionTask current attempt state => current = attempt ∧ state = .inProgress
  | wrote writer attempt _ => writer = attempt
  | finishedWriter writer attempt _ => writer = attempt
  | setCounters current attempt => current = attempt
  | completed current attempt => current = attempt
  | updated => True

instance : (effect : DownloadEffect) → Decidable effect.Own
  | createdSessionTask _ _ _ => inferInstanceAs (Decidable (_ ∧ _))
  | wrote _ _ _ | finishedWriter _ _ _ | setCounters _ _ | completed _ _ =>
    inferInstanceAs (Decidable (_ = _))
  | updated => inferInstanceAs (Decidable True)

def created (effects : List DownloadEffect) : List Nat :=
  effects.filterMap fun effect =>
    match effect with
    | createdSessionTask _ attempt _ => some attempt
    | _ => none

@[simp]
theorem created_append (first second : List DownloadEffect) :
    created (first ++ second) = created first ++ created second :=
  List.filterMap_append ..

end DownloadEffect

structure DownloadTaskImpl where
  state : DownloadState
  writer : Option Nat
  errorCode : Int
  httpCode : Int
  totalBytes : Int
  receivedBytes : Int
  percentComplete : Int
  mimeType : String
  session : Bool
  sessionTask : Option Nat
  attempts : Nat
  outstanding : List Outstanding
deriving DecidableEq, Repr

namespace DownloadTaskImpl

abbrev Reaction := Checked (DownloadTaskImpl × List DownloadEffect)

def errInvalidUrl : Int := -300

def initial (totalBytes : Int) (mimeType : String) : DownloadTaskImpl where
  state := .notStarted
  writer := none
  errorCode := 0
  httpCode := -1
  totalBytes := totalBytes
  receivedBytes := 0
  percentComplete := -1
  mimeType := mimeType
  session := false
  sessionTask := none
  attempts := 0
  outstanding := []

def getTaskPercentComplete : Checked Int := do
  if progress.countOfBytesExpectedToReceive = 0 then
    return 100
  if progress.countOfBytesExpectedToReceive = -1 then
    return -1
  dcheck (progress.countOfBytesReceived ≤ progress.countOfBytesExpectedToReceive)
  return (100 * progress.countOfBytesReceived).tdiv progress.countOfBytesExpectedToReceive

variable {after : DownloadTaskImpl} (url : OriginalUrl) (task : DownloadTaskImpl)

def onDownloadFinished (attempt : Nat) (errorCode : Int) : DownloadTaskImpl × List DownloadEffect :=
  ({ task with errorCode := errorCode, state := .complete, sessionTask := none },
    [.completed task.attempts attempt, .updated])

def finishWriter (attempt : Nat) (errorCode : Int) (answersAtOnce : Bool) : Reaction := do
  let writer ← task.writer
  if answersAtOnce then
    let (after, effects) := task.onDownloadFinished attempt errorCode
    return (after, .finishedWriter writer attempt errorCode :: effects)
  return ({ task with outstanding := task.outstanding ++ [.finish attempt] },
    [.finishedWriter writer attempt errorCode])

def onDataUrlWritten (attempt : Nat) (bytesWritten : Int) (answersAtOnce : Bool) : Reaction := do
  let (after, effects) ← finishWriter
    { task with
      percentComplete := 100
      totalBytes := bytesWritten
      receivedBytes := bytesWritten } attempt 0 answersAtOnce
  return (after, .setCounters task.attempts attempt :: effects)

def startDataUrlParsing (parsed : Option (String × List UInt8)) (written : Option Int)
    (answersAtOnce : Bool) : Reaction :=
  match parsed with
  | none => some ({ task with mimeType := "" }.onDownloadFinished task.attempts errInvalidUrl)
  | some (mimeType, data) => do
      let task := { task with mimeType := mimeType }
      let writer ← task.writer
      match written with
      | none =>
        return ({ task with outstanding := task.outstanding ++ [.write task.attempts] },
          [.wrote writer task.attempts data])
      | some bytesWritten =>
        let (after, effects) ← task.onDataUrlWritten task.attempts bytesWritten answersAtOnce
        return (after, .wrote writer task.attempts data :: effects)

/-- What `Start` sets.  The writer of an attempt is known by the number of the attempt. -/
def beginAttempt : DownloadTaskImpl :=
  { task with
    attempts := task.attempts + 1
    writer := some (task.attempts + 1)
    percentComplete := 0
    receivedBytes := 0
    state := .inProgress }

def start (written : Option Int) (answersAtOnce : Bool) : Reaction := do
  dcheck (task.state ≠ .inProgress)
  let task := task.beginAttempt
  match url with
  | .data parsed => task.startDataUrlParsing parsed written answersAtOnce
  | .network =>
    return ({ task with outstanding := task.outstanding ++ [.cookies task.attempts] }, [])

def cancel : DownloadTaskImpl × List DownloadEffect :=
  ({ task with sessionTask := none, state := .cancelled }, [.updated])

def startWithCookies (attempt : Nat) : Reaction := do
  dcheck (task.writer ≠ none)
  return ({ task with
      session := true
      sessionTask := some attempt
      outstanding := task.outstanding ++ [.sessionTask attempt] },
    [.createdSessionTask task.attempts attempt task.state, .updated])

def dataBlock (attempt : Nat) (data : List UInt8) : Reaction := do
  let writer ← task.writer
  return (task, [.wrote writer attempt data])

/-- The first part of the properties block: the counters are those of the session task. -/
def setProperties (progress : TaskProgress) : Checked DownloadTaskImpl := do
  let percentComplete ← getTaskPercentComplete progress
  return { task with
    errorCode := progress.errorCode
    percentComplete := percentComplete
    receivedBytes := progress.countOfBytesReceived
    totalBytes :=
      if task.totalBytes = -1 ∨ progress.countOfBytesExpectedToReceive ≠ 0 then
        progress.countOfBytesExpectedToReceive
      else
        task.totalBytes
    mimeType := progress.mimeType.getD task.mimeType
    httpCode := progress.statusCode.getD task.httpCode }

def propertiesBlock (attempt : Nat) (progress : TaskProgress) : Reaction := do
  let task ← task.setProperties progress
  return (task, [.setCounters task.attempts attempt, .updated])

def propertiesBlockTerminal (attempt : Nat) (progress : TaskProgress) (answersAtOnce : Bool) :
    Reaction := do
  let task ← task.setProperties progress
  let (after, effects) ← task.finishWriter attempt task.errorCode answersAtOnce
  return (after, .setCounters task.attempts attempt :: effects)

/-! ## Events -/

inductive Input where
  | start (written : Option Int) (answersAtOnce : Bool)
  | cancel
  | cookies (attempt : Nat)
  | didReceiveData (attempt : Nat) (data : List UInt8)
  | didProgress (attempt : Nat) (progress : TaskProgress)
  | didComplete (attempt : Nat) (progress : TaskProgress) (answersAtOnce : Bool)
  | dataUrlWritten (attempt : Nat) (bytesWritten : Int) (answersAtOnce : Bool)
  | writerFinished (attempt : Nat) (result : Int)
deriving DecidableEq, Repr

/-- The callback is no longer outstanding once it runs. -/
def settle (callback : Outstanding) : DownloadTaskImpl :=
  { task with outstanding := task.outstanding.erase callback }

def step : Input → Reaction
  | .start written answersAtOnce => task.start url written answersAtOnce
  | .cancel => some task.cancel
  | .cookies attempt => (task.settle (.cookies attempt)).startWithCookies attempt
  | .didReceiveData attempt data => task.dataBlock attempt data
  | .didProgress attempt progress => task.propertiesBlock attempt progress
  | .didComplete attempt progress answersAtOnce =>
    (task.settle (.sessionTask attempt)).propertiesBlockTerminal attempt progress answersAtOnce
  | .dataUrlWritten attempt bytesWritten answersAtOnce =>
    (task.settle (.write attempt)).onDataUrlWritten attempt bytesWritten answersAtOnce
  | .writerFinished attempt result =>
    some ((task.settle (.finish attempt)).onDownloadFinished attempt result)

/-- A task is started when it is not in progress, and callbacks come while they are
outstanding. -/
def Accepts : Input → Prop
  | .start _ _ => task.state ≠ .inProgress
  | .cancel => True
  | .cookies attempt => .cookies attempt ∈ task.outstanding
  | .didReceiveData attempt _ => .sessionTask attempt ∈ task.outstanding
  | .didProgress attempt progress =>
    .sessionTask attempt ∈ task.outstanding ∧ progress.Plausible
  | .didComplete attempt progress _ =>
    .sessionTask attempt ∈ task.outstanding ∧ progress.Plausible
  | .dataUrlWritten attempt _ _ => .write attempt ∈ task.outstanding
  | .writerFinished attempt _ => .finish attempt ∈ task.outstanding

def KeepsRunning (input : Input) : Prop :=
  input = .cancel → task.state ≠ .inProgress
deriving Decidable

instance : (input : Input) → Decidable (task.Accepts input)
  | .start _ _ => inferInstanceAs (Decidable (_ ≠ _))
  | .cancel => inferInstanceAs (Decidable True)
  | .cookies _ | .didReceiveData _ _ | .dataUrlWritten _ _ _ | .writerFinished _ _ =>
    inferInstanceAs (Decidable (_ ∈ _))
  | .didProgress _ _ | .didComplete _ _ _ => inferInstanceAs (Decidable (_ ∈ _ ∧ _))

/-! ## One attempt at a time -/

/-- Only the current attempt waits for anything, and it waits for one thing; its writer is the
one in use. -/
structure Focused (task : DownloadTaskImpl) : Prop where
  writer : 0 < task.attempts → task.writer = some task.attempts
  busy : task.state = .inProgress → 0 < task.attempts ∧
    ∃ callback, task.outstanding = [callback] ∧ callback.attempt = task.attempts
  idle : task.state ≠ .inProgress → task.outstanding = []

/-- The reaction to an event of the current attempt: nothing else is reached. -/
def Handled (reaction : Reaction) : Prop :=
  ∃ after effects, reaction = some (after, effects) ∧ after.Focused ∧
    after.attempts = task.attempts ∧ (∀ attempt, .cookies attempt ∉ after.outstanding) ∧
    (∀ effect ∈ effects, effect.Own) ∧ DownloadEffect.created effects = []

section Steps

variable {task : DownloadTaskImpl} {url : OriginalUrl}
variable {callback : Outstanding}

/-- A callback that can come belongs to the current attempt, which waits for nothing else. -/
theorem Focused.current (focused : task.Focused) (waiting : callback ∈ task.outstanding) :
    task.state = .inProgress ∧ task.outstanding = [callback] ∧ callback.attempt = task.attempts ∧
      task.writer = some task.attempts := by
  have running : task.state = .inProgress := by
    grind [focused.idle]
  grind [focused.busy, focused.writer]

variable {reaction : Reaction} {before : DownloadTaskImpl} {progress : TaskProgress}

theorem getTaskPercentComplete_returns (within : progress.Plausible) :
    ∃ percent, getTaskPercentComplete progress = some percent := by
  simp only [getTaskPercentComplete]
  split
  · exact ⟨100, rfl⟩
  · split
    · exact ⟨-1, rfl⟩
    · have bounded : progress.countOfBytesReceived ≤ progress.countOfBytesExpectedToReceive := by
        rcases within with zero | unknown | bounded <;> grind
      simp [dcheck_of bounded]

theorem setProperties_returns (task : DownloadTaskImpl) (within : progress.Plausible) :
    ∃ after, task.setProperties progress = some after ∧ after.state = task.state ∧
      after.writer = task.writer ∧ after.attempts = task.attempts ∧
      after.outstanding = task.outstanding := by
  obtain ⟨_, returned⟩ := getTaskPercentComplete_returns within
  simp [setProperties, returned]

theorem finishWriter_handled (task : DownloadTaskImpl) (errorCode : Int) (answersAtOnce : Bool)
    (running : task.state = .inProgress) (started : 0 < task.attempts)
    (writer : task.writer = some task.attempts) (nothing : task.outstanding = []) :
    task.Handled (task.finishWriter task.attempts errorCode answersAtOnce) := by
  simp only [finishWriter, writer]
  cases answersAtOnce with
  | true =>
    refine ⟨_, _, rfl, ⟨fun _ => writer, ?_, fun _ => nothing⟩, rfl, ?_, ?_, rfl⟩
    · intro running
      cases running
    · simp [onDownloadFinished, nothing]
    · simp [onDownloadFinished, DownloadEffect.Own]
  | false =>
    refine ⟨_, _, rfl, ⟨fun _ => rfl, ?_, ?_⟩, rfl, ?_, ?_, rfl⟩
    · simp [Outstanding.attempt, started, nothing]
    · simp [running]
    · simp [nothing]
    · simp [DownloadEffect.Own]

theorem Handled.prepend (handled : before.Handled reaction) (effect : DownloadEffect)
    (same : before.attempts = task.attempts) (own : effect.Own)
    (none : DownloadEffect.created [effect] = []) :
    task.Handled (reaction.bind fun (after, effects) => some (after, effect :: effects)) := by
  obtain ⟨after, effects, rfl, focused, attempts, noCookies, owned, empty⟩ := handled
  refine ⟨after, effect :: effects, rfl, focused, attempts.trans same, noCookies, ?_, ?_⟩
  · grind
  · rw [← List.singleton_append, DownloadEffect.created_append, none, empty]
    rfl

theorem onDataUrlWritten_handled (task : DownloadTaskImpl) (bytesWritten : Int)
    (answersAtOnce : Bool) (running : task.state = .inProgress) (started : 0 < task.attempts)
    (writer : task.writer = some task.attempts) (nothing : task.outstanding = []) :
    task.Handled (task.onDataUrlWritten task.attempts bytesWritten answersAtOnce) :=
  (finishWriter_handled
    { task with
      percentComplete := 100
      totalBytes := bytesWritten
      receivedBytes := bytesWritten } 0 answersAtOnce running started writer nothing).prepend
    (.setCounters task.attempts task.attempts) rfl rfl rfl

theorem propertiesBlockTerminal_handled (task : DownloadTaskImpl) (within : progress.Plausible)
    (answersAtOnce : Bool) (running : task.state = .inProgress) (started : 0 < task.attempts)
    (writer : task.writer = some task.attempts) (nothing : task.outstanding = []) :
    task.Handled (task.propertiesBlockTerminal task.attempts progress answersAtOnce) := by
  obtain ⟨set, returned, state, same, attempts, outstanding⟩ :=
    setProperties_returns task within
  have finished := finishWriter_handled set set.errorCode answersAtOnce
    (state.trans running) (attempts ▸ started) (by rw [same, writer, attempts])
    (outstanding.trans nothing)
  rw [attempts] at finished
  have handled := finished.prepend (.setCounters set.attempts task.attempts) attempts attempts rfl
  simp only [propertiesBlockTerminal, returned]
  exact handled

theorem startDataUrlParsing_handled (task : DownloadTaskImpl)
    (parsed : Option (String × List UInt8)) (written : Option Int) (answersAtOnce : Bool)
    (running : task.state = .inProgress) (started : 0 < task.attempts)
    (writer : task.writer = some task.attempts) (nothing : task.outstanding = []) :
    task.Handled (task.startDataUrlParsing parsed written answersAtOnce) := by
  cases parsed with
  | none =>
    refine ⟨_, _, rfl, ⟨fun _ => writer, ?_, fun _ => nothing⟩, rfl, ?_, ?_, rfl⟩
    · intro running
      cases running
    · simp [nothing]
    · simp [DownloadEffect.Own]
  | some content =>
    obtain ⟨mimeType, _⟩ := content
    simp only [startDataUrlParsing, writer]
    cases written with
    | none =>
      refine ⟨_, _, rfl, ⟨fun _ => rfl, ?_, ?_⟩, rfl, ?_, ?_, rfl⟩
      · simp [Outstanding.attempt, started, nothing]
      · simp [running]
      · simp [nothing]
      · simp [DownloadEffect.Own]
    | some bytesWritten =>
      exact (onDataUrlWritten_handled
        { task with mimeType := mimeType, writer := some task.attempts } bytesWritten
        answersAtOnce running started rfl nothing).prepend _ rfl rfl rfl

/-- What has been created, against what can still be created. -/
def Fresh (task : DownloadTaskImpl) (attempts : List Nat) : Prop :=
  attempts.Nodup ∧
    ∀ attempt ∈ attempts, attempt ≤ task.attempts ∧ .cookies attempt ∉ task.outstanding

theorem Fresh.mono {attempts : List Nat} (fresh : task.Fresh attempts)
    (later : task.attempts ≤ after.attempts)
    (noNew : ∀ attempt, .cookies attempt ∈ after.outstanding →
      .cookies attempt ∈ task.outstanding) : after.Fresh (attempts ++ []) := by
  grind [Fresh]

def StepsWell (task : DownloadTaskImpl) (reaction : Reaction) : Prop :=
  ∃ after effects, reaction = some (after, effects) ∧ after.Focused ∧
    (∀ effect ∈ effects, effect.Own) ∧
    ∀ attempts, task.Fresh attempts → after.Fresh (attempts ++ DownloadEffect.created effects)

theorem Handled.stepsWell (handled : before.Handled reaction)
    (later : task.attempts ≤ before.attempts) : task.StepsWell reaction := by
  obtain ⟨after, effects, rfl, focused, same, noCookies, owned, empty⟩ := handled
  refine ⟨after, effects, rfl, focused, owned, ?_⟩
  intro attempts fresh
  grind [fresh.mono]

theorem start_stepsWell (focused : task.Focused) (stopped : task.state ≠ .inProgress)
    (written : Option Int) (answersAtOnce : Bool) :
    task.StepsWell (task.start url written answersAtOnce) := by
  have nothing := focused.idle stopped
  simp only [start, dcheck_of stopped]
  cases url with
  | data parsed =>
    have handled := startDataUrlParsing_handled task.beginAttempt parsed written answersAtOnce rfl
      (Nat.succ_pos task.attempts) rfl nothing
    exact handled.stepsWell (Nat.le_succ task.attempts)
  | network =>
    refine ⟨_, _, rfl, ⟨fun _ => rfl, ?_, fun other => absurd rfl other⟩, ?_, ?_⟩
    · simp [beginAttempt, Outstanding.attempt, nothing]
    · intro effect inside
      cases inside
    · rintro attempts ⟨nodup, bounded⟩
      refine ⟨by simpa [DownloadEffect.created] using nodup, ?_⟩
      intro attempt inside
      have earlier := (bounded attempt (by simpa [DownloadEffect.created] using inside)).1
      simp only [beginAttempt, nothing, List.nil_append, List.mem_singleton,
        Outstanding.cookies.injEq]
      omega

theorem cookies_stepsWell (focused : task.Focused) {attempt : Nat}
    (waiting : .cookies attempt ∈ task.outstanding) :
    task.StepsWell (step url task (.cookies attempt)) := by
  obtain ⟨running, only, own, writer⟩ := focused.current waiting
  have own : attempt = task.attempts := own
  subst own
  obtain ⟨started, -⟩ := focused.busy running
  have written : (task.settle (.cookies task.attempts)).writer ≠ none := by
    simp [settle, writer]
  simp only [step, startWithCookies, dcheck_of written]
  refine ⟨_, _, rfl, ⟨fun _ => writer, ?_, ?_⟩, ?_, ?_⟩
  · simp [settle, Outstanding.attempt, started, only]
  · simp [settle, running]
  · simp [DownloadEffect.Own, settle, running]
  · rintro attempts ⟨nodup, bounded⟩
    refine ⟨?_, ?_⟩
    · grind [DownloadEffect.created]
    · intro attempt inside
      refine ⟨?_, by simp [settle, only]⟩
      rcases List.mem_append.mp inside with old | new
      · exact (bounded attempt old).1
      · exact Nat.le_of_eq (List.mem_singleton.mp new)

theorem Focused.settled (focused : task.Focused) (waiting : callback ∈ task.outstanding) :
    (task.settle callback).state = .inProgress ∧ 0 < task.attempts ∧
      task.writer = some task.attempts ∧ (task.settle callback).outstanding = [] := by
  obtain ⟨running, only, -, writer⟩ := focused.current waiting
  simp [settle, only, running, focused.busy, writer]

theorem step_stepsWell {input : Input} (focused : task.Focused) (accepted : task.Accepts input)
    (kept : task.KeepsRunning input) : task.StepsWell (step url task input) := by
  cases input with
  | start written answersAtOnce => exact start_stepsWell focused accepted written answersAtOnce
  | cancel =>
    have nothing := focused.idle (kept rfl)
    refine ⟨_, _, rfl, ⟨focused.writer, ?_, fun _ => nothing⟩, ?_, ?_⟩
    · intro running
      cases running
    · simp [DownloadEffect.Own]
    · simp [Fresh, DownloadEffect.created]
  | cookies _ => exact cookies_stepsWell focused accepted
  | didReceiveData attempt _ =>
    obtain ⟨running, only, own, writer⟩ := focused.current accepted
    have own : attempt = task.attempts := own
    simp [StepsWell, step, dataBlock, writer, DownloadEffect.Own, own, DownloadEffect.created,
      focused]
  | didProgress attempt _ =>
    obtain ⟨waiting, within⟩ := accepted
    obtain ⟨running, only, own, writer⟩ := focused.current waiting
    have own : attempt = task.attempts := own
    obtain ⟨set, returned, state, same, attempts, outstanding⟩ :=
      setProperties_returns task within
    simp only [step, propertiesBlock, returned]
    refine ⟨_, _, rfl, ⟨?_, ?_, ?_⟩, ?_, ?_⟩
    · rw [same, attempts]
      exact focused.writer
    · rw [state, attempts, outstanding]
      exact focused.busy
    · rw [state, outstanding]
      exact focused.idle
    · simp [DownloadEffect.Own, own, attempts]
    · grind [Fresh, DownloadEffect.created]
  | didComplete attempt _ answersAtOnce =>
    obtain ⟨waiting, within⟩ := accepted
    obtain rfl : attempt = task.attempts := (focused.current waiting).2.2.1
    obtain ⟨running, started, writer, nothing⟩ := focused.settled waiting
    exact (propertiesBlockTerminal_handled (task.settle (.sessionTask task.attempts)) within
      answersAtOnce running started writer nothing).stepsWell (Nat.le_refl _)
  | dataUrlWritten attempt bytesWritten answersAtOnce =>
    obtain rfl : attempt = task.attempts := (focused.current accepted).2.2.1
    obtain ⟨running, started, writer, nothing⟩ := focused.settled accepted
    exact (onDataUrlWritten_handled (task.settle (.write task.attempts)) bytesWritten
      answersAtOnce running started writer nothing).stepsWell (Nat.le_refl _)
  | writerFinished attempt _ =>
    obtain rfl : attempt = task.attempts := (focused.current accepted).2.2.1
    obtain ⟨-, -, writer, nothing⟩ := focused.settled accepted
    refine ⟨_, _, rfl, ⟨fun _ => writer, ?_, fun _ => nothing⟩, ?_, ?_⟩
    · intro running
      cases running
    · simp [settle, DownloadEffect.Own]
    · simp [Fresh, settle, DownloadEffect.created]

end Steps

/-! ## Whole runs -/

/-- What is promised of the attempts, after the effects so far and whatever event comes next:
assertions hold; effects reach their own attempt; a session task is created only for an attempt
in progress, and at most once; and a cancelled task stays so until it is started again. -/
structure Separate (url : OriginalUrl) (effects : List DownloadEffect) (task : DownloadTaskImpl) :
    Prop where
  own : ∀ effect ∈ effects, effect.Own
  oneSessionTask : (DownloadEffect.created effects).Nodup
  returns : ∀ input, task.Accepts input → ∃ after more, step url task input = some (after, more)
  nextOwn : ∀ input after more, task.Accepts input → step url task input = some (after, more) →
    ∀ effect ∈ more, effect.Own
  staysCancelled : ∀ input after more, task.Accepts input →
    step url task input = some (after, more) → task.state = .cancelled →
    (∀ written answersAtOnce, input ≠ .start written answersAtOnce) → after.state = .cancelled

section Runs

variable {url : OriginalUrl} {effects : List DownloadEffect} {task : DownloadTaskImpl}

/-- A cancel returns and has no effect on any attempt, whatever the task waits for. -/
theorem cancel_step (url : OriginalUrl) (task : DownloadTaskImpl) :
    step url task .cancel =
      some ({ task with sessionTask := none, state := .cancelled }, [.updated]) := rfl

theorem Focused.separate (focused : task.Focused) (own : ∀ effect ∈ effects, effect.Own)
    (oneSessionTask : (DownloadEffect.created effects).Nodup) : Separate url effects task where
  own := own
  oneSessionTask := oneSessionTask
  returns := by
    intro input accepted
    by_cases cancelled : input = .cancel
    · subst cancelled
      exact ⟨_, _, cancel_step url task⟩
    · obtain ⟨after, more, stepped, -⟩ := step_stepsWell focused accepted
        fun same => absurd same cancelled
      exact ⟨after, more, stepped⟩
  nextOwn := by
    intro input after more accepted stepped
    by_cases cancelled : input = .cancel
    · grind [DownloadEffect.Own, cancel_step]
    · obtain ⟨_, _, same, -, owned, -⟩ := step_stepsWell focused accepted
        fun same => absurd same cancelled
      rw [stepped] at same
      cases same
      exact owned
  staysCancelled := by
    intro input after more accepted stepped state notStart
    have nothing : task.outstanding = [] := focused.idle (by simp [state])
    cases input with
    | start _ _ => simp at notStart
    | cancel =>
      cases stepped
      rfl
    | cookies attempt | didReceiveData attempt data | didProgress attempt progress
    | didComplete attempt progress answersAtOnce
    | dataUrlWritten attempt bytesWritten answersAtOnce | writerFinished attempt result =>
      simp [Accepts, nothing] at accepted

/-- A task that is cancelled in progress still waits for a callback of the attempt, and that
callback breaks a promise. -/
theorem cancel_breaks (focused : task.Focused) (running : task.state = .inProgress)
    {more : List DownloadEffect} (stepped : step url task .cancel = some (after, more))
    (effects : List DownloadEffect) : ¬ Separate url effects after := by
  rw [cancel_step] at stepped
  cases stepped
  intro separate
  obtain ⟨started, callback, only, _⟩ := focused.busy running
  have writer := focused.writer started
  cases callback with
  | cookies attempt =>
    have owned := separate.nextOwn (.cookies attempt) _ _ (by simp [Accepts, only])
      (by
        simp only [step, startWithCookies, settle, writer]
        rfl) (.createdSessionTask task.attempts attempt .cancelled) (by simp)
    exact absurd owned.2 (by decide)
  | sessionTask attempt =>
    have stays := separate.staysCancelled (.didComplete attempt ⟨-3, 0, 0, none, none⟩ true) _ _
      (by simp [Accepts, only, TaskProgress.Plausible])
      (by
        simp only [step, propertiesBlockTerminal, setProperties, getTaskPercentComplete, settle,
          finishWriter, writer]
        rfl) rfl (by simp)
    cases stays
  | write attempt =>
    have stays := separate.staysCancelled (.dataUrlWritten attempt 0 true) _ _
      (by simp [Accepts, only])
      (by
        simp only [step, onDataUrlWritten, settle, finishWriter, writer]
        rfl) rfl (by simp)
    cases stays
  | finish attempt =>
    have stays := separate.staysCancelled (.writerFinished attempt 0) _ _
      (by simp [Accepts, only]) rfl rfl (by simp)
    cases stays

end Runs

abbrev DownloadRun (totalBytes : Int) (mimeType : String) :
    List DownloadEffect → DownloadTaskImpl → Prop :=
  Runs (step url) Accepts (initial totalBytes mimeType)

abbrev KeptRun (totalBytes : Int) (mimeType : String) :
    List DownloadEffect → DownloadTaskImpl → Prop :=
  Runs (step url) (fun task input => task.Accepts input ∧ task.KeepsRunning input)
    (initial totalBytes mimeType)

/-- Along these runs the attempts are kept apart, and the next step leaves them so exactly when
it does not cancel a task in progress. -/
theorem separate_iff_keepsRunning {url : OriginalUrl} {totalBytes : Int} {mimeType : String}
    {effects : List DownloadEffect} {task : DownloadTaskImpl}
    (run : KeptRun url totalBytes mimeType effects task) :
    Separate url effects task ∧ ∀ input, task.Accepts input →
      ((∃ after more, step url task input = some (after, more) ∧
          Separate url (effects ++ more) after) ↔ task.KeepsRunning input) := by
  obtain ⟨focused, own, fresh⟩ : task.Focused ∧ (∀ effect ∈ effects, effect.Own) ∧
      task.Fresh (DownloadEffect.created effects) := by
    refine run.invariant_outputs (fun effects task => task.Focused ∧
      (∀ effect ∈ effects, effect.Own) ∧ task.Fresh (DownloadEffect.created effects)) ?_ ?_
    · refine ⟨⟨?_, ?_, fun _ => rfl⟩, ?_, List.nodup_nil, ?_⟩
      · intro started
        cases started
      · intro running
        cases running
      · simp
      · intro attempt inside
        cases inside
    · rintro effects state after input more - ⟨focused, own, fresh⟩ ⟨accepted, kept⟩ stepped
      obtain ⟨next, emitted, same, still, owned, extended⟩ :=
        step_stepsWell focused accepted kept
      rw [stepped] at same
      grind [DownloadEffect.created_append]
  refine ⟨focused.separate own fresh.1, ?_⟩
  intro input accepted
  constructor
  · grind [KeepsRunning, cancel_breaks]
  · intro kept
    obtain ⟨after, more, stepped, still, owned, extended⟩ :=
      step_stepsWell focused accepted kept
    refine ⟨after, more, stepped, still.separate (List.forall_mem_append.mpr ⟨own, owned⟩) ?_⟩
    simpa using (extended _ fresh).1

def aborted : TaskProgress := ⟨-3, 0, 0, none, none⟩

def failedAndRestarted : List Input :=
  [.start none true, .cookies 1, .didReceiveData 1 [102], .didComplete 1 aborted false,
    .writerFinished 1 (-3), .cancel, .start none true, .cookies 2, .didReceiveData 2 [111]]

theorem separate_iff_keepsRunning_restarted :
    ∃ effects task, KeptRun .network (-1) "" effects task ∧ task.attempts = 2 ∧
      DownloadEffect.created effects = [1, 2] ∧ Separate .network effects task := by
  have run : KeptRun .network (-1) "" _ _ :=
    Runs.replay failedAndRestarted .start (Option.eq_some_of_isSome (by decide))
  exact ⟨_, _, run, by decide, by decide, (separate_iff_keepsRunning run).1⟩

/-- A download that is cancelled before its cookies arrive gets a session task all the same, and
the error of that task ends the next attempt; one that is cancelled later becomes complete. -/
theorem cancelled_attempt_reaches_next :
    (∃ effects task, DownloadRun .network (-1) "" effects task ∧
      .createdSessionTask 1 1 .cancelled ∈ effects ∧ .finishedWriter 2 1 (-3) ∈ effects ∧
      .completed 2 1 ∈ effects ∧ ¬ Separate .network effects task) ∧
    ∃ effects task, DownloadRun .network (-1) "" effects task ∧ task.state = .cancelled ∧
      (step .network task (.didComplete 1 aborted true)).map (·.1.state) = some .complete ∧
      task.Accepts (.didComplete 1 aborted true) := by
  have early : DownloadRun .network (-1) "" _ _ :=
    Runs.replay [.start none true, .cancel, .cookies 1, .start none true,
      .didComplete 1 aborted true] .start (Option.eq_some_of_isSome (by decide))
  have late : DownloadRun .network (-1) "" _ _ :=
    Runs.replay [.start none true, .cookies 1, .cancel] .start
      (Option.eq_some_of_isSome (by decide))
  refine ⟨⟨_, _, early, by decide, by decide, by decide, ?_⟩,
    ⟨_, _, late, by decide, by decide, by decide⟩⟩
  intro separate
  exact absurd (separate.own (.completed 2 1) (by decide)) (by decide)

end DownloadTaskImpl

end ChromiumIos
