import ChromiumIos.Lib.Runs
import ChromiumIos.Lib.Writes

/-!
# Delayed and immediate saves of sessions

The service keeps, for each session path, the factory of the session that is
still to be saved.  A delayed save is a request of the run loop, made when the
first factory of a path comes in; later factories of that path replace it.  An
immediate save cancels the requests of the service and saves at once.  Saving
calls the factory and posts the session to a sequenced task runner, which
writes the files.

Requests may fire in any order, between any two calls.  A file holds the
factory whose session was written to it.
-/

namespace ChromiumIos

open Lib

structure SessionServiceIOS (Path Factory : Type) where
  pendingSessions : Store Path Factory
  scheduled : List Path
  posted : List (Path × Option Factory)
  files : Store Path Factory

namespace SessionServiceIOS

variable {Directory Path Factory : Type} [DecidableEq Path]

/-- A new service over the files that earlier sessions have left. -/
def initWithTaskRunner (files : Store Path Factory) : SessionServiceIOS Path Factory where
  pendingSessions := fun _ => none
  scheduled := []
  posted := []
  files := files

/-- Calls the factory on the main thread; the session is written by the task runner. -/
def performSaveToPathInBackground (service : SessionServiceIOS Path Factory) (sessionPath : Path) :
    Checked (SessionServiceIOS Path Factory) := do
  let factory ← service.pendingSessions sessionPath
  return { service with
    pendingSessions := service.pendingSessions.write (sessionPath, none)
    posted := service.posted ++ [(sessionPath, some factory)] }

variable (sessionPathForDirectory : Directory → Path) (service : SessionServiceIOS Path Factory)

def saveSession (factory : Factory) (directory : Directory) (immediately : Bool) :
    Checked (SessionServiceIOS Path Factory) :=
  let sessionPath := sessionPathForDirectory directory
  let hadPendingSession := (service.pendingSessions sessionPath).isSome
  let service := { service with
    pendingSessions := service.pendingSessions.write (sessionPath, some factory) }
  if immediately then
    performSaveToPathInBackground { service with scheduled := [] } sessionPath
  else if !hadPendingSession then
    some { service with scheduled := service.scheduled ++ [sessionPath] }
  else
    some service

inductive Input (Directory Path Factory : Type) where
  | saveSession (factory : Factory) (directory : Directory) (immediately : Bool)
  | fire (sessionPath : Path)
  | performSaveSessionData
deriving DecidableEq, Repr

/-- One call, one request that fires, or one task that writes a file.  A call emits the path
and the factory it was given. -/
def step :
    Input Directory Path Factory →
      Checked (SessionServiceIOS Path Factory × List (Path × Option Factory))
  | .saveSession factory directory immediately =>
    (saveSession sessionPathForDirectory service factory directory immediately).map
      fun after => (after, [(sessionPathForDirectory directory, some factory)])
  | .fire sessionPath =>
    (performSaveToPathInBackground
      { service with scheduled := service.scheduled.erase sessionPath } sessionPath).map
        fun after => (after, [])
  | .performSaveSessionData =>
    match service.posted with
    | [] => none
    | entry :: rest =>
      some ({ service with posted := rest, files := service.files.write entry }, [])

/-- A request fires when it is scheduled, and a task runs when it is posted. -/
def Accepts : Input Directory Path Factory → Prop
  | .saveSession _ _ _ => True
  | .fire sessionPath => sessionPath ∈ service.scheduled
  | .performSaveSessionData => service.posted ≠ []

/-- An immediate save is made only when no delayed save of another path is scheduled. -/
def CancelsOwn : Input Directory Path Factory → Prop
  | .saveSession _ directory true =>
    ∀ sessionPath ∈ service.scheduled, sessionPath = sessionPathForDirectory directory
  | _ => True

instance : (input : Input Directory Path Factory) → Decidable (service.Accepts input)
  | .saveSession _ _ _ => inferInstanceAs (Decidable True)
  | .fire sessionPath => inferInstanceAs (Decidable (sessionPath ∈ service.scheduled))
  | .performSaveSessionData => inferInstanceAs (Decidable (service.posted ≠ []))

instance :
    (input : Input Directory Path Factory) →
      Decidable (service.CancelsOwn sessionPathForDirectory input)
  | .saveSession _ directory true =>
    inferInstanceAs (Decidable (∀ sessionPath ∈ service.scheduled,
      sessionPath = sessionPathForDirectory directory))
  | .saveSession _ _ false => inferInstanceAs (Decidable True)
  | .fire _ => inferInstanceAs (Decidable True)
  | .performSaveSessionData => inferInstanceAs (Decidable True)

/-! ## What the files are due to hold -/

/-- What a path will hold once its pending factory is saved and the posted tasks have run. -/
def due : Store Path Factory :=
  service.pendingSessions.overlay (service.files.writeAll service.posted)

/-- Each path with a pending factory has exactly one request. -/
structure Consistent (service : SessionServiceIOS Path Factory) : Prop where
  nodup : service.scheduled.Nodup
  mem_scheduled : ∀ path, path ∈ service.scheduled ↔ service.pendingSessions path ≠ none

section Steps

variable {service after : SessionServiceIOS Path Factory} {sessionPath : Path} {factory : Factory}

/-- Saving a pending factory leaves what the files are due to hold as it is. -/
theorem performSave_consistent (service : SessionServiceIOS Path Factory)
    (found : service.pendingSessions sessionPath = some factory) (nodup : service.scheduled.Nodup)
    (others : ∀ path, path ∈ service.scheduled ↔
      path ≠ sessionPath ∧ service.pendingSessions path ≠ none) :
    ∃ after, performSaveToPathInBackground service sessionPath = some after ∧
      after.scheduled = service.scheduled ∧ after.Consistent ∧ after.due = service.due := by
  refine ⟨{ service with
    pendingSessions := service.pendingSessions.write (sessionPath, none)
    posted := service.posted ++ [(sessionPath, some factory)] }, ?_, rfl, ⟨nodup, ?_⟩, ?_⟩
  · simp only [performSaveToPathInBackground, found]
    rfl
  · intro path
    rw [others path]
    by_cases same : path = sessionPath
    · subst same
      simp
    · simp [Store.write_of_ne same, same]
  · simpa [due] using Store.overlay_move found

theorem fire_consistent (consistent : service.Consistent)
    (scheduled : sessionPath ∈ service.scheduled) :
    ∃ after, performSaveToPathInBackground
        { service with scheduled := service.scheduled.erase sessionPath } sessionPath =
          some after ∧ after.scheduled = service.scheduled.erase sessionPath ∧
      after.Consistent ∧ after.due = service.due := by
  obtain ⟨_, found⟩ :=
    Option.ne_none_iff_exists'.mp ((consistent.mem_scheduled sessionPath).mp scheduled)
  refine performSave_consistent _ found (consistent.nodup.erase _) ?_
  intro path
  rw [consistent.nodup.mem_erase_iff, consistent.mem_scheduled]

variable {sessionPathForDirectory : Directory → Path} {directory : Directory}

theorem saveImmediately_consistent (consistent : service.Consistent)
    (own : ∀ path ∈ service.scheduled, path = sessionPathForDirectory directory) :
    ∃ after, saveSession sessionPathForDirectory service factory directory true = some after ∧
      after.Consistent ∧
      after.due = service.due.write (sessionPathForDirectory directory, some factory) := by
  have others : ∀ path, path ∈ ([] : List Path) ↔ path ≠ sessionPathForDirectory directory ∧
      service.pendingSessions.write (sessionPathForDirectory directory, some factory) path ≠
        none := by
    intro path
    constructor
    · intro inside
      cases inside
    · rintro ⟨other, pending⟩
      rw [Store.write_of_ne other, ← consistent.mem_scheduled] at pending
      exact absurd (own path pending) other
  obtain ⟨after, performed, -, kept, same⟩ := performSave_consistent
    { service with
      pendingSessions :=
        service.pendingSessions.write (sessionPathForDirectory directory, some factory)
      scheduled := [] }
    Store.write_self List.nodup_nil others
  refine ⟨after, performed, kept, same.trans ?_⟩
  exact Store.overlay_write_some

theorem saveDelayed_consistent (consistent : service.Consistent) :
    ∃ after, saveSession sessionPathForDirectory service factory directory false = some after ∧
      after.Consistent ∧
      after.due = service.due.write (sessionPathForDirectory directory, some factory) := by
  simp only [saveSession, Bool.false_eq_true, if_false]
  have mem := consistent.mem_scheduled
  cases pending : service.pendingSessions (sessionPathForDirectory directory) with
  | none =>
    refine ⟨_, rfl, ⟨?_, ?_⟩, Store.overlay_write_some⟩
    · grind [consistent.nodup]
    · intro path
      by_cases same : path = sessionPathForDirectory directory
      · subst same
        simp
      · simp [Store.write_of_ne same, same, mem]
  | some _ =>
    refine ⟨_, rfl, ⟨consistent.nodup, ?_⟩, Store.overlay_write_some⟩
    intro path
    by_cases same : path = sessionPathForDirectory directory
    · subst same
      simp [mem, pending]
    · simp [Store.write_of_ne same, mem]

theorem performSaveSessionData_consistent (consistent : service.Consistent)
    (posted : service.posted ≠ []) :
    ∃ after, step sessionPathForDirectory service .performSaveSessionData = some (after, []) ∧
      after.Consistent ∧ after.due = service.due ∧
      after.posted.length < service.posted.length := by
  obtain ⟨entry, rest, tasks⟩ := List.exists_cons_of_ne_nil posted
  refine ⟨{ service with posted := rest, files := service.files.write entry }, ?_,
    ⟨consistent.nodup, consistent.mem_scheduled⟩, ?_, ?_⟩
  · simp only [step, tasks]
  · simp [due, tasks]
  · simp [tasks]

/-- What the files are due to hold changes exactly as the calls say. -/
theorem step_consistent {input : Input Directory Path Factory} (consistent : service.Consistent)
    (accepted : service.Accepts input) (own : service.CancelsOwn sessionPathForDirectory input) :
    ∃ after saves, step sessionPathForDirectory service input = some (after, saves) ∧
      after.Consistent ∧ after.due = service.due.writeAll saves := by
  cases input with
  | saveSession factory directory immediately =>
    have saved : ∃ after,
        saveSession sessionPathForDirectory service factory directory immediately = some after ∧
        after.Consistent ∧
        after.due = service.due.write (sessionPathForDirectory directory, some factory) := by
      cases immediately with
      | true => exact saveImmediately_consistent consistent own
      | false => exact saveDelayed_consistent consistent
    simpa [step, Store.writeAll] using saved
  | fire _ =>
    obtain ⟨after, performed, -, kept, same⟩ := fire_consistent consistent accepted
    exact ⟨after, [], by simp [step, performed], kept, same⟩
  | performSaveSessionData =>
    obtain ⟨after, stepped, kept, same, -⟩ :=
      performSaveSessionData_consistent consistent accepted
    exact ⟨after, [], stepped, kept, same⟩

end Steps

/-! ## No save is lost -/

/-- A run in which requests fire and tasks are done, and no call is made. -/
abbrev Settles (settled : SessionServiceIOS Path Factory) : Prop :=
  Runs (step sessionPathForDirectory)
    (fun service input => service.Accepts input ∧
      ∀ factory directory immediately, input ≠ .saveSession factory directory immediately)
    service [] settled

/-- A pending factory has a request, and when all requests have fired and all tasks are done,
in whatever order, each path holds the last factory that was given for it. -/
structure NothingLost (sessionPathForDirectory : Directory → Path)
    (service : SessionServiceIOS Path Factory) (given : Store Path Factory) : Prop where
  scheduled : ∀ path, service.pendingSessions path ≠ none → path ∈ service.scheduled
  settles : ∃ settled, Settles sessionPathForDirectory service settled ∧
    settled.scheduled = [] ∧ settled.posted = []
  written : ∀ settled, Settles sessionPathForDirectory service settled →
    settled.scheduled = [] → settled.posted = [] → settled.files = given

section Settling

variable {sessionPathForDirectory : Directory → Path}
variable {service settled : SessionServiceIOS Path Factory}

/-- Settling steps leave what is due as it is. -/
theorem Settles.consistent (run : Settles sessionPathForDirectory service settled)
    (consistent : service.Consistent) : settled.Consistent ∧ settled.due = service.due := by
  refine run.invariant (fun state => state.Consistent ∧ state.due = service.due)
    ⟨consistent, rfl⟩ ?_
  rintro state after input emitted ⟨consistent, same⟩ ⟨accepted, quiet⟩ stepped
  have own : state.CancelsOwn sessionPathForDirectory input := by
    simp [CancelsOwn, quiet]
  obtain ⟨next, saves, performed, kept, written⟩ := step_consistent consistent accepted own
  rw [performed] at stepped
  cases stepped
  refine ⟨kept, written.trans ?_⟩
  cases input with
  | saveSession _ _ _ =>
    simp at quiet
  | fire _ =>
    obtain ⟨last, -, result⟩ := Option.map_eq_some_iff.mp performed
    cases result
    exact same
  | performSaveSessionData =>
    grind [Store.writeAll, step]

theorem settles_posted (consistent : service.Consistent) (fired : service.scheduled = []) :
    ∃ settled, Settles sessionPathForDirectory service settled ∧
      settled.scheduled = [] ∧ settled.posted = [] := by
  induction tasks : service.posted generalizing service with
  | nil => exact ⟨service, .start, fired, tasks⟩
  | cons entry rest ih =>
    have stepped : step sessionPathForDirectory service .performSaveSessionData =
        some ({ service with posted := rest, files := service.files.write entry }, []) := by
      simp only [step, tasks]
    have kept : Consistent { service with posted := rest, files := service.files.write entry } :=
      ⟨consistent.nodup, consistent.mem_scheduled⟩
    obtain ⟨settled, run, done⟩ := ih kept fired rfl
    refine ⟨settled, Runs.trans (.next .start ⟨?_, ?_⟩ stepped) run, done⟩
    · simp [Accepts, tasks]
    · simp

/-- The requests can all fire and the tasks can all be done. -/
theorem exists_settles (consistent : service.Consistent) :
    ∃ settled, Settles sessionPathForDirectory service settled ∧
      settled.scheduled = [] ∧ settled.posted = [] := by
  induction requests : service.scheduled generalizing service with
  | nil => exact settles_posted consistent requests
  | cons sessionPath _ ih =>
    have scheduled : sessionPath ∈ service.scheduled := by simp [requests]
    obtain ⟨after, performed, left, kept, -⟩ := fire_consistent consistent scheduled
    have stepped : step sessionPathForDirectory service (.fire sessionPath) =
        some (after, []) := by
      simp [step, performed]
    obtain ⟨settled, run, done⟩ := ih kept (by simp [left, requests])
    refine ⟨settled, Runs.trans (.next .start ⟨scheduled, ?_⟩ stepped) run, done⟩
    simp

theorem Consistent.nothingLost (consistent : service.Consistent) :
    service.NothingLost sessionPathForDirectory service.due where
  scheduled := fun path pending => (consistent.mem_scheduled path).mpr pending
  settles := exists_settles consistent
  written := by
    intro settled run fired done
    obtain ⟨kept, same⟩ := run.consistent consistent
    have empty : ∀ path, settled.pendingSessions path = none := by
      simpa [fired] using kept.mem_scheduled
    rw [← same, due, done, Store.overlay_of_empty empty]
    rfl

/-- An immediate save of one path leaves the pending factory of another without a request. -/
theorem saveSession_drops (consistent : service.Consistent) {other : Path}
    (scheduled : other ∈ service.scheduled) {factory : Factory} {directory : Directory}
    (different : other ≠ sessionPathForDirectory directory)
    {after : SessionServiceIOS Path Factory} {saves : List (Path × Option Factory)}
    (stepped : step sessionPathForDirectory service (.saveSession factory directory true) =
      some (after, saves)) (given : Store Path Factory) :
    ¬ after.NothingLost sessionPathForDirectory given := by
  obtain ⟨_, ran, result⟩ := Option.map_eq_some_iff.mp stepped
  obtain ⟨_, _, performed⟩ := bind_eq_some ran
  cases performed
  cases result
  intro lossless
  have pending := (consistent.mem_scheduled other).mp scheduled
  have requested := lossless.scheduled other
    (by simpa [Store.write_of_ne different] using pending)
  simp at requested

end Settling

/-- A run of a service over the files `files`, in which an immediate save is made only when no
delayed save of another path is scheduled. -/
abbrev OwnRun (files : Store Path Factory) :
    List (Path × Option Factory) → SessionServiceIOS Path Factory → Prop :=
  Runs (step sessionPathForDirectory)
    (fun service input => service.Accepts input ∧ service.CancelsOwn sessionPathForDirectory input)
    (initWithTaskRunner files)

/-- Along these runs no save is lost, and the next step loses none exactly when it keeps to the
same rule. -/
theorem nothingLost_iff_cancelsOwn {sessionPathForDirectory : Directory → Path}
    {files : Store Path Factory} {saves : List (Path × Option Factory)}
    {service : SessionServiceIOS Path Factory}
    (run : OwnRun sessionPathForDirectory files saves service) :
    service.NothingLost sessionPathForDirectory (files.writeAll saves) ∧
      ∀ input, service.Accepts input →
        ((∃ after more, step sessionPathForDirectory service input = some (after, more) ∧
            after.NothingLost sessionPathForDirectory (files.writeAll (saves ++ more))) ↔
          service.CancelsOwn sessionPathForDirectory input) := by
  obtain ⟨consistent, due⟩ : service.Consistent ∧ service.due = files.writeAll saves := by
    refine run.invariant_outputs (fun saves service =>
      service.Consistent ∧ service.due = files.writeAll saves) ?_ ?_
    · refine ⟨⟨List.nodup_nil, ?_⟩, rfl⟩
      simp [initWithTaskRunner]
    · rintro saves state after input more - ⟨consistent, due⟩ ⟨accepted, own⟩ stepped
      obtain ⟨next, emitted, performed, kept, written⟩ := step_consistent consistent accepted own
      grind [Store.writeAll]
  refine ⟨due ▸ consistent.nothingLost, ?_⟩
  intro input accepted
  constructor
  · rintro ⟨after, more, stepped, lossless⟩
    cases input with
    | saveSession _ _ immediately =>
      cases immediately <;> grind [CancelsOwn, saveSession_drops]
    | fire sessionPath | performSaveSessionData => trivial
  · intro own
    obtain ⟨after, more, performed, kept, written⟩ := step_consistent consistent accepted own
    refine ⟨after, more, performed, ?_⟩
    have given : after.due = files.writeAll (saves ++ more) := by
      simp [written, due, Store.writeAll]
    rw [← given]
    exact kept.nothingLost

def savedBoth : List (Input Bool Bool Nat) :=
  [.saveSession 1 false false, .saveSession 2 false true, .saveSession 3 true false,
    .performSaveSessionData, .fire true]

theorem nothingLost_iff_cancelsOwn_savedBoth :
    ∃ saves service, OwnRun id (fun _ : Bool => (none : Option Nat)) saves service ∧
      saves = [(false, some 1), (false, some 2), (true, some 3)] ∧
      service.NothingLost id (Store.writeAll (fun _ => none) saves) := by
  have run : OwnRun id (fun _ : Bool => (none : Option Nat)) _ _ :=
    Runs.replay savedBoth .start (Option.eq_some_of_isSome (by decide))
  exact ⟨_, _, run, by decide, (nothingLost_iff_cancelsOwn run).1⟩

/-- A delayed save of the normal session, an immediate save of the incognito one, and another
delayed save of the normal session: no request is left that would ever write it. -/
theorem delayed_save_dropped :
    ∃ saves service, Runs (step id) Accepts (initWithTaskRunner fun _ : Bool => (none : Option Nat))
        saves service ∧
      saves = [(false, some 1), (true, some 2), (false, some 3)] ∧
      service.pendingSessions false = some 3 ∧ service.scheduled = [] ∧ service.posted = [] ∧
      service.files false = none ∧
      ¬ service.NothingLost id (Store.writeAll (fun _ => none) saves) := by
  have run : Runs (step id) Accepts (initWithTaskRunner fun _ : Bool => (none : Option Nat)) _ _ :=
    Runs.replay [.saveSession 1 false false, .saveSession 2 true true, .saveSession 3 false false,
      .performSaveSessionData] .start (Option.eq_some_of_isSome (by decide))
  refine ⟨_, _, run, by decide, by decide, by decide, by decide, by decide, ?_⟩
  intro lossless
  exact absurd (lossless.scheduled false (by decide)) (by decide)

end SessionServiceIOS

end ChromiumIos
