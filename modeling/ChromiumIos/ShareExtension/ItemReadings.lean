import ChromiumIos.ShareExtension.ShareExtensionItemReceiver

/-!
# Shared items are added once

Each reading of a file posts one task that adds its item.  A file that is read again before
the task that deletes it has run is added again.
-/

namespace ChromiumIos

open Lib

variable (id : Nat)

namespace ReceiverEvent

def isAddOf : ReceiverEvent → Bool
  | .addEntry other _ _ | .addURL other _ _ => other = id
  | _ => false

def isReadOf : ReceiverEvent → Bool
  | .read other => other = id
  | _ => false

end ReceiverEvent

def ReceiverUITask.isEntryOf : ReceiverUITask → Bool
  | .processEntry other _ _ _ _ _ => other = id
  | _ => false

namespace ShareExtensionItemReceiver

open ReceiverEvent

variable {device : ShareDevice} {receiver after : ShareExtensionItemReceiver}
variable {log events : List ReceiverEvent} {input : Input} {id : Nat}

/-- The tasks that wait to add the item of a file. -/
def entriesOf (receiver : ShareExtensionItemReceiver) (id : Nat) : Nat :=
  receiver.ui.countP (ReceiverUITask.isEntryOf id)

/-- What a step does to the items: nothing, it reads one, or it adds one. -/
inductive ItemEffect (receiver : ShareExtensionItemReceiver) (input : Input) :
    ShareExtensionItemReceiver → List ReceiverEvent → Prop where
  | keep {after : ShareExtensionItemReceiver} {events : List ReceiverEvent}
      (fewer : ∀ id, after.entriesOf id ≤ receiver.entriesOf id)
      (noAdd : ∀ id, events.countP (isAddOf id) = 0)
      (noRead : ∀ id, events.countP (isReadOf id) = 0) : ItemEffect receiver input after events
  | read {after : ShareExtensionItemReceiver} {coordinates deletes batch : Bool} {path : String}
      {file : SharedFile} (turn : input = .runTask coordinates deletes)
      (task : receiver.background.head? = some (.handleFile path batch))
      (found : receiver.files.find? (fun file => file.path = path) = some file)
      (more : ∀ id, after.entriesOf id =
        receiver.entriesOf id + if file.id = id then 1 else 0) :
      ItemEffect receiver input after [.handled file.id, .read file.id]
  | add {after : ShareExtensionItemReceiver} {events : List ReceiverEvent} (added : Nat)
      (fewer : ∀ id, receiver.entriesOf id = after.entriesOf id + if added = id then 1 else 0)
      (adds : ∀ id, events.countP (isAddOf id) ≤ if added = id then 1 else 0)
      (noRead : ∀ id, events.countP (isReadOf id) = 0) : ItemEffect receiver input after events

/-- Steps that leave the tasks of the UI thread alone. -/
theorem ItemEffect.same (ui : after.ui = receiver.ui)
    (noAdd : ∀ id, events.countP (isAddOf id) = 0)
    (noRead : ∀ id, events.countP (isReadOf id) = 0) :
    ItemEffect receiver input after events := by
  refine .keep (fun id => ?_) noAdd noRead
  rw [entriesOf, ui]
  exact Nat.le_refl _

/-- Another task is posted to the UI thread. -/
theorem ItemEffect.post {task : ReceiverUITask} (ui : after.ui = receiver.ui ++ [task])
    (other : ∀ id, task.isEntryOf id = false)
    (noAdd : ∀ id, events.countP (isAddOf id) = 0)
    (noRead : ∀ id, events.countP (isReadOf id) = 0) :
    ItemEffect receiver input after events := by
  refine .keep (fun id => ?_) noAdd noRead
  simp [entriesOf, ui, other]

theorem applicationDidBecomeActive_item (receiver : ShareExtensionItemReceiver) :
    receiver.applicationDidBecomeActive.1.ui = receiver.ui ∧
      (receiver.applicationDidBecomeActive.2 = [] ∨
        receiver.applicationDidBecomeActive.2 = [.postedProcessing]) := by
  unfold applicationDidBecomeActive
  grind [postTask]

theorem applicationWillResignActive_ui (receiver : ShareExtensionItemReceiver) :
    receiver.applicationWillResignActive.ui = receiver.ui := by
  unfold applicationWillResignActive
  split
  · rfl
  · rfl

/-- Deleting a file posts at most the end of a batch update. -/
theorem deleteFileAtURL_item (receiver : ShareExtensionItemReceiver) (path : String)
    (batch deletes : Bool) :
    ((receiver.deleteFileAtURL path batch deletes).1.ui = receiver.ui ∨
      (receiver.deleteFileAtURL path batch deletes).1.ui = receiver.ui ++ [.endBatchUpdates]) ∧
      ∀ id, (receiver.deleteFileAtURL path batch deletes).2.countP (isAddOf id) = 0 ∧
        (receiver.deleteFileAtURL path batch deletes).2.countP (isReadOf id) = 0 := by
  unfold deleteFileAtURL
  grind [postUITask, isAddOf, isReadOf]

theorem handleFileAtURL_effect {task : ReceiverTask} {rest : List ReceiverTask}
    {path : String} {batch coordinates deletes : Bool}
    (background : receiver.background = task :: rest) (turn : task = .handleFile path batch)
    (handled : ({ receiver with background := rest } : ShareExtensionItemReceiver).handleFileAtURL
      device path batch coordinates deletes = (after, events)) :
    ItemEffect receiver (.runTask coordinates deletes) after events := by
  unfold handleFileAtURL at handled
  split at handled
  · cases handled
    exact .same rfl (fun _ => rfl) fun _ => rfl
  · next file found =>
    split at handled
    · cases handled
      exact .same rfl (fun _ => rfl) fun _ => rfl
    · have deleted : ∀ outcome : Outcome,
          outcome = ({ receiver with background := rest } :
            ShareExtensionItemReceiver).deleteFileAtURL path batch deletes →
          ItemEffect receiver (.runTask coordinates deletes) outcome.1
            (.handled file.id :: outcome.2) := by
        rintro outcome rfl
        obtain ⟨ui, quiet⟩ := deleteFileAtURL_item
          ({ receiver with background := rest } : ShareExtensionItemReceiver) path batch deletes
        have noAdd : ∀ id, (.handled file.id :: (({ receiver with background := rest } :
            ShareExtensionItemReceiver).deleteFileAtURL path batch deletes).2).countP
              (isAddOf id) = 0 := fun id => (quiet id).1
        have noRead : ∀ id, (.handled file.id :: (({ receiver with background := rest } :
            ShareExtensionItemReceiver).deleteFileAtURL path batch deletes).2).countP
              (isReadOf id) = 0 := fun id => (quiet id).2
        rcases ui with ui | ui
        · exact .same ui noAdd noRead
        · exact .post ui (fun _ => rfl) noAdd noRead
      split at handled
      · cases handled
        exact deleted _ rfl
      · cases handled
        exact deleted _ rfl
      · next type url title _ =>
        cases handled
        refine .read rfl (by rw [background, turn]; rfl) found fun id => ?_
        simp [entriesOf, postUITask, ReceiverUITask.isEntryOf]

theorem performTask_effect {task : ReceiverTask} {rest : List ReceiverTask}
    {coordinates deletes : Bool} (background : receiver.background = task :: rest)
    (performed : ({ receiver with background := rest } : ShareExtensionItemReceiver).performTask
      device coordinates deletes task = (after, events)) :
    ItemEffect receiver (.runTask coordinates deletes) after events := by
  cases turn : task with
  | createReadingListFolder =>
    rw [turn] at performed
    cases performed
    exact .post rfl (fun _ => rfl) (fun _ => rfl) fun _ => rfl
  | processExistingFiles =>
    rw [turn] at performed
    cases performed
    unfold processExistingFiles
    dsimp only
    split
    · exact .same rfl (fun _ => rfl) fun _ => rfl
    · exact .post rfl (fun _ => rfl) (fun _ => rfl) fun _ => rfl
  | handleFile _ _ =>
    rw [turn] at performed
    exact handleFileAtURL_effect background turn performed
  | deleteFile path batch =>
    rw [turn] at performed
    obtain ⟨ui, quiet⟩ := deleteFileAtURL_item
      ({ receiver with background := rest } : ShareExtensionItemReceiver) path batch deletes
    change deleteFileAtURL _ path batch deletes = _ at performed
    rw [performed] at ui quiet
    rcases ui with ui | ui
    · exact .same ui (fun id => (quiet id).1) fun id => (quiet id).2
    · exact .post ui (fun _ => rfl) (fun id => (quiet id).1) fun id => (quiet id).2

/-- The first task of the UI thread runs; if it adds an item, it no longer waits. -/
theorem performUITask_effect {task : ReceiverUITask} {rest : List ReceiverUITask}
    (ui : receiver.ui = task :: rest)
    (performed : ({ receiver with ui := rest } : ShareExtensionItemReceiver).performUITask task =
      (after, events)) : ItemEffect receiver .runUITask after events := by
  have taken : ∀ last : ShareExtensionItemReceiver, last.ui = rest →
      ∀ id, receiver.entriesOf id = last.entriesOf id + if task.isEntryOf id then 1 else 0 := by
    intro last same id
    rw [entriesOf, entriesOf, ui, same, List.countP_cons]
  have fewer : ∀ last : ShareExtensionItemReceiver, last.ui = rest →
      ∀ id, last.entriesOf id ≤ receiver.entriesOf id := by
    grind
  cases turn : task with
  | readingListFolderCreated =>
    rw [turn] at performed
    change onReadingListFolderCreated _ = _ at performed
    unfold onReadingListFolderCreated at performed
    split at performed
    · cases performed
      obtain ⟨same, told⟩ := applicationDidBecomeActive_item
        ({ receiver with ui := rest, readingListFolderCreated := true } :
          ShareExtensionItemReceiver)
      refine .keep (fewer _ same) (fun id => ?_) fun id => ?_
      · rcases told with told | told
        · rw [told]
          rfl
        · rw [told]
          rfl
      · rcases told with told | told
        · rw [told]
          rfl
        · rw [told]
          rfl
    · cases performed
      exact .keep (fewer _ rfl) (fun _ => rfl) fun _ => rfl
  | entriesReceived _ =>
    rw [turn] at performed
    cases performed
    refine .keep (fewer _ ?_) (fun _ => rfl) fun _ => rfl
    unfold entriesReceived
    split
    · rfl
    · rfl
  | processEntry added path batch type url title =>
    rw [turn] at performed taken
    change processEntry _ added path batch type url title = _ at performed
    unfold processEntry at performed
    split at performed
    · cases performed
      exact .keep (fewer _ rfl) (fun _ => rfl) fun _ => rfl
    · cases performed
      refine .add added (fun id => ?_) (fun id => ?_) fun id => ?_
      · grind [postTask, ReceiverUITask.isEntryOf]
      · grind [isAddOf]
      · grind [isReadOf]
  | endBatchUpdates =>
    rw [turn] at performed
    cases performed
    exact .keep (fewer _ rfl) (fun _ => rfl) fun _ => rfl

theorem becomeActive_effect (receiver : ShareExtensionItemReceiver) :
    ItemEffect receiver .becomeActive receiver.becomeActive.1 receiver.becomeActive.2 := by
  unfold becomeActive
  dsimp only
  split
  · obtain ⟨same, told⟩ := applicationDidBecomeActive_item
      ({ receiver with active := true } : ShareExtensionItemReceiver)
    rcases told with told | told
    · rw [told]
      exact .same same (fun _ => rfl) fun _ => rfl
    · rw [told]
      exact .same same (fun _ => rfl) fun _ => rfl
  · exact .same rfl (fun _ => rfl) fun _ => rfl

theorem step_effect (stepped : receiver.step device input = some (after, events)) :
    ItemEffect receiver input after events := by
  cases input with
  | becomeActive =>
    have effect := becomeActive_effect receiver
    rw [show receiver.becomeActive = (after, events) from Option.some.inj stepped] at effect
    exact effect
  | resignActive =>
    cases stepped
    refine .same ?_ (fun _ => rfl) fun _ => rfl
    grind [applicationWillResignActive_ui]
  | shutdown | drop path legacy entry =>
    cases stepped
    exact .same rfl (fun _ => rfl) fun _ => rfl
  | runTask _ _ =>
    unfold ShareExtensionItemReceiver.step at stepped
    cases background : receiver.background with
    | nil =>
      rw [background] at stepped
      cases stepped
      exact .same rfl (fun _ => rfl) fun _ => rfl
    | cons _ _ =>
      grind [performTask_effect]
  | runUITask =>
    unfold ShareExtensionItemReceiver.step at stepped
    cases ui : receiver.ui with
    | nil =>
      rw [ui] at stepped
      cases stepped
      exact .same rfl (fun _ => rfl) fun _ => rfl
    | cons _ _ =>
      grind [performUITask_effect]
  | change _ =>
    cases stepped
    refine .same ?_ (fun _ => rfl) fun _ => rfl
    unfold presentedSubitemDidChangeAtURL
    dsimp only
    split
    · rfl
    · rfl

/-! ## Runs -/

/-- A handling reads a file only if no earlier handling has read it: the file of an item that
was read is deleted before anything handles it again. -/
def ReadsOnce (state : ShareExtensionItemReceiver × List ReceiverEvent) : Input → Prop
  | .runTask _ _ => ∀ path batch,
      state.1.background.head? = some (.handleFile path batch) →
        ∀ file ∈ state.1.files.find? fun file => file.path = path, .read file.id ∉ state.2
  | _ => True

/-- Items are added by as many tasks as there were readings, and files are read once. -/
structure AddsFromReadings (log : List ReceiverEvent) (receiver : ShareExtensionItemReceiver) :
    Prop where
  adds : ∀ id, log.countP (isAddOf id) + receiver.entriesOf id ≤ log.countP (isReadOf id)
  reads : ∀ id, log.countP (isReadOf id) ≤ 1

theorem countP_isReadOf_eq_zero (absent : .read id ∉ log) : log.countP (isReadOf id) = 0 := by
  refine List.countP_eq_zero.mpr fun event mem read => ?_
  cases event with
  | read _ =>
    rw [of_decide_eq_true read] at mem
    exact absent mem
  | becameActive | resignedActive | folderCreated | postedProcessing | handled | addEntry
    | addURL | deleted => cases read

theorem step_addsFromReadings (holds : AddsFromReadings log receiver)
    (readsOnce : ReadsOnce (receiver, log) input)
    (stepped : receiver.step device input = some (after, events)) :
    AddsFromReadings (log ++ events) after := by
  obtain ⟨adds, reads⟩ := holds
  cases step_effect stepped with
  | keep fewer noAdd noRead | add added fewer one noRead =>
    refine ⟨fun id => ?_, fun id => ?_⟩
    · grind
    · rw [List.countP_append, noRead]
      exact reads id
  | @read _ _ batch path file turn task found more =>
    subst turn
    have first := readsOnce path batch task file found
    have one : ∀ id, [ReceiverEvent.handled file.id, .read file.id].countP (isReadOf id) =
        if file.id = id then 1 else 0 := by
      intro id
      simp [List.countP_cons, isReadOf]
    refine ⟨fun id => ?_, fun id => ?_⟩
    · have before := adds id
      rw [List.countP_append, List.countP_append, one, more]
      change log.countP (isAddOf id) + 0 + _ ≤ _
      omega
    · rw [List.countP_append, one]
      by_cases same : file.id = id
      · subst same
        simp [countP_isReadOf_eq_zero first]
      · rw [if_neg same]
        exact reads id

/-- When no file is read a second time, each item is added at most once. -/
theorem run_addedOnce {active : Bool} {state : ShareExtensionItemReceiver × List ReceiverEvent}
    (run : Runs (logged (step device))
      (fun state input => state.1.Offered input ∧ ReadsOnce state input)
      (initial active, []) log state) (id : Nat) : log.countP (isAddOf id) ≤ 1 := by
  have idle : AddsFromReadings [] (initial active) :=
    ⟨fun _ => Nat.le_refl 0, fun _ => Nat.zero_le 1⟩
  have holds : AddsFromReadings log state.1 ∧ state.2 = log := by
    refine run.invariant_outputs (fun log state => AddsFromReadings log state.1 ∧ state.2 = log)
      ⟨idle, rfl⟩ ?_
    intro log state after input events _ holds accepted stepped
    grind [logged_eq_some, step_addsFromReadings]
  have adds := holds.1.adds id
  have reads := holds.1.reads id
  omega

instance (state : ShareExtensionItemReceiver × List ReceiverEvent) :
    (input : Input) → Decidable (ReadsOnce state input)
  | .runTask _ _ =>
    match head : state.1.background.head? with
    | some (.handleFile path batch) =>
      decidable_of_iff
        (∀ found ∈ state.1.files.find? (fun file : SharedFile => file.path = path),
          ReceiverEvent.read found.id ∉ state.2)
        ⟨fun unread other started same => by
          cases head.symm.trans same
          exact unread, fun readsOnce => readsOnce path batch head⟩
    | none | some .createReadingListFolder | some .processExistingFiles
      | some (.deleteFile _ _) =>
        isTrue fun path batch same => by cases head.symm.trans same
  | .becomeActive | .resignActive | .shutdown | .runUITask | .change _ | .drop _ _ _ =>
    isTrue trivial

def anyURL : ShareDevice := ⟨fun _ => true, fun _ => true⟩

def readingListItem : ShareItemEntry :=
  ⟨some false, ⟨"https://example.com/"⟩, "Example", some 0, some kReadingListItem,
    some "ChromeShareExtension"⟩

/-- The receiver is told of a file twice, but handles it the second time after its deletion. -/
theorem run_addedOnce_deletedBetween : ∃ log : List ReceiverEvent,
    (∀ id, log.countP (isAddOf id) ≤ 1) ∧ log.countP (isAddOf 0) = 1 := by
  have idle : Runs (logged (step anyURL))
      (fun state input => state.1.Offered input ∧ ReadsOnce state input)
      (initial true, []) [] (initial true, []) := .start
  have added := run_addedOnce (idle.replay
    [.runTask true true, .runUITask, .runTask true true, .drop "item" false (some readingListItem),
      .change "item", .runTask true true, .runUITask, .change "item", .runTask true true,
      .runTask true true]
    (Option.eq_some_of_isSome (by decide +kernel)))
  exact ⟨_, added, by decide +kernel⟩

/-- The receiver is told of a file twice before the item has been added. -/
theorem run_addedTwice : ¬ ∀ (log : List ReceiverEvent) (receiver : ShareExtensionItemReceiver),
    Runs (step anyURL) Offered (initial true) log receiver →
      ∀ id, log.countP (isAddOf id) ≤ 1 := by
  intro once
  have idle : Runs (step anyURL) Offered (initial true) [] (initial true) := .start
  have twice := once _ _ (idle.replay
    [.runTask true true, .runUITask, .runTask true true, .drop "item" false (some readingListItem),
      .change "item", .change "item", .runTask true true, .runTask true true, .runUITask,
      .runUITask]
    (Option.eq_some_of_isSome (by decide +kernel))) 0
  exact absurd twice (by decide +kernel)

end ShareExtensionItemReceiver

end ChromiumIos
