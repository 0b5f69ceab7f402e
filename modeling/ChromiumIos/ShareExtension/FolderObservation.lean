import ChromiumIos.ShareExtension.ShareExtensionItemReceiver

/-!
# The receiver observes its folder while the application is active

Once the creation of the folder has been reported, the receiver is a file presenter exactly
while the application is active, and every file was handled or will be.  This fails when the
creation is reported to an inactive application, or to an active one after the shutdown.
-/

namespace ChromiumIos

open Lib

namespace ShareExtensionItemReceiver

open ReceiverEvent

variable {device : ShareDevice} {receiver after : ShareExtensionItemReceiver}
variable {log events : List ReceiverEvent} {input : Input} {file : SharedFile}

def PostedSinceActive (log : List ReceiverEvent) : Prop :=
  ∃ before later, log = before ++ .postedProcessing :: later ∧ .becameActive ∉ later

/-- A file was handled, or something is queued that will handle it. -/
inductive Covered (log : List ReceiverEvent) (receiver : ShareExtensionItemReceiver)
    (file : SharedFile) : Prop where
  | handled (mem : .handled file.id ∈ log)
  | changed (mem : file.path ∈ receiver.changes)
  | queued (batch : Bool) (mem : .handleFile file.path batch ∈ receiver.background)
  | processing (mem : .processExistingFiles ∈ receiver.background)
  | received (paths : List String) (mem : .entriesReceived paths ∈ receiver.ui)
      (listed : file.path ∈ paths)

/-- The registrations and flags of a receiver that is not shut down, or of one that is. -/
structure Registered (receiver : ShareExtensionItemReceiver) : Prop where
  notified : receiver.observesApplication = receiver.hasTaskRunner
  presenters : receiver.presenters =
    if receiver.hasTaskRunner ∧ receiver.isObservingReadingListFolder then 1 else 0
  observing : receiver.hasTaskRunner = true → receiver.isObservingReadingListFolder =
    (receiver.readingListFolderCreated && receiver.active)

structure Observing (log : List ReceiverEvent) (receiver : ShareExtensionItemReceiver) : Prop where
  registered : Registered receiver
  created : .folderCreated ∈ log → receiver.hasTaskRunner = true →
    receiver.readingListFolderCreated = true
  distinct : (receiver.files.map SharedFile.path).Nodup
  posted : receiver.hasTaskRunner = true → receiver.isObservingReadingListFolder = true →
    PostedSinceActive log
  covered : receiver.hasTaskRunner = true → receiver.isObservingReadingListFolder = true →
    ∀ file ∈ receiver.files, file.legacy = false → Covered log receiver file

theorem PostedSinceActive.append (posted : PostedSinceActive log)
    (quiet : .becameActive ∉ events) : PostedSinceActive (log ++ events) := by
  grind [PostedSinceActive]

theorem PostedSinceActive.latest (log : List ReceiverEvent) :
    PostedSinceActive (log ++ [.postedProcessing]) :=
  ⟨log, [], rfl, List.not_mem_nil⟩

/-- What covers a file goes on covering it when the queues only grow. -/
theorem Covered.grow (covered : Covered log receiver file)
    (changes : ∀ path ∈ receiver.changes, path ∈ after.changes)
    (background : ∀ task ∈ receiver.background, task ∈ after.background)
    (ui : ∀ task ∈ receiver.ui, task ∈ after.ui) : Covered (log ++ events) after file := by
  cases covered with
  | handled mem => exact .handled (List.mem_append_left _ mem)
  | changed mem => exact .changed (changes _ mem)
  | queued batch mem => exact .queued batch (background _ mem)
  | processing mem => exact .processing (background _ mem)
  | received paths mem listed => exact .received paths (ui _ mem) listed

theorem Covered.append (covered : Covered log receiver file) :
    Covered (log ++ events) receiver file :=
  covered.grow (fun _ => id) (fun _ => id) fun _ => id

/-! ## The life of the application -/

/-- The receiver is told that the application is active: it registers and looks for files. -/
theorem applicationDidBecomeActive_observing (receiver : ShareExtensionItemReceiver)
    (log : List ReceiverEvent)
    (registered : receiver.observesApplication = receiver.hasTaskRunner)
    (alive : receiver.hasTaskRunner = true)
    (active : receiver.active = true)
    (presenters : receiver.presenters = if receiver.isObservingReadingListFolder then 1 else 0)
    (distinct : (receiver.files.map SharedFile.path).Nodup)
    (created : .folderCreated ∈ log → receiver.readingListFolderCreated = true)
    (observes : receiver.isObservingReadingListFolder = true →
      receiver.readingListFolderCreated = true ∧ PostedSinceActive log ∧
        ∀ file ∈ receiver.files, file.legacy = false → Covered log receiver file) :
    Observing (log ++ receiver.applicationDidBecomeActive.2)
      receiver.applicationDidBecomeActive.1 := by
  unfold applicationDidBecomeActive
  split
  · next idle =>
    rw [List.append_nil]
    have observing : receiver.isObservingReadingListFolder =
        (receiver.readingListFolderCreated && receiver.active) := by
      grind
    refine ⟨⟨registered, ?_, fun _ => observing⟩, fun mem _ => created mem, distinct,
      fun _ on => (observes on).2.1, fun _ on => (observes on).2.2⟩
    rw [presenters, alive]
    simp
  · next fresh =>
    obtain ⟨folder, unobserved⟩ := not_or.mp fresh
    have folderCreated : receiver.readingListFolderCreated = true := Bool.of_not_eq_false folder
    have idle : receiver.isObservingReadingListFolder = false := Bool.eq_false_iff.mpr unobserved
    rw [if_pos alive]
    refine ⟨⟨registered, ?_, fun _ => ?_⟩, fun _ _ => folderCreated, distinct,
      fun _ _ => .latest log, fun _ _ file _ _ => .processing ?_⟩
    · simp [postTask, presenters, idle, alive]
    · simp [postTask, folderCreated, active]
    · simp [postTask]

/-! ## Tasks -/

/-- The fields of a receiver that the tasks of the background sequence leave alone. -/
structure SameRegistration (receiver after : ShareExtensionItemReceiver) : Prop where
  observesApplication : after.observesApplication = receiver.observesApplication
  hasTaskRunner : after.hasTaskRunner = receiver.hasTaskRunner
  isObserving : after.isObservingReadingListFolder = receiver.isObservingReadingListFolder
  created : after.readingListFolderCreated = receiver.readingListFolderCreated
  active : after.active = receiver.active
  presenters : after.presenters = receiver.presenters

theorem SameRegistration.refl (receiver : ShareExtensionItemReceiver) :
    SameRegistration receiver receiver :=
  ⟨rfl, rfl, rfl, rfl, rfl, rfl⟩

theorem Registered.same (registered : Registered receiver)
    (same : SameRegistration receiver after) : Registered after := by
  obtain ⟨notified, presenters, observing⟩ := registered
  refine ⟨?_, ?_, ?_⟩
  · rw [same.observesApplication, same.hasTaskRunner, notified]
  · rw [same.presenters, same.hasTaskRunner, same.isObserving, presenters]
  · rw [same.hasTaskRunner, same.isObserving, same.created, same.active]
    exact observing

/-- A step that leaves the registrations alone has to cover the files that remain. -/
theorem Observing.same (observing : Observing log receiver)
    (same : SameRegistration receiver after)
    (quiet : .becameActive ∉ events ∧ .folderCreated ∉ events)
    (distinct : (after.files.map SharedFile.path).Nodup)
    (covered : receiver.hasTaskRunner = true →
      (∀ file ∈ receiver.files, file.legacy = false → Covered log receiver file) →
      receiver.presenters = 1 →
        ∀ file ∈ after.files, file.legacy = false → Covered (log ++ events) after file) :
    Observing (log ++ events) after := by
  refine ⟨observing.registered.same same, fun mem alive => ?_, distinct, fun alive on => ?_,
    fun alive on => ?_⟩
  · grind [same.created, same.hasTaskRunner, observing.created]
  · rw [same.hasTaskRunner] at alive
    rw [same.isObserving] at on
    exact (observing.posted alive on).append quiet.1
  · rw [same.hasTaskRunner] at alive
    rw [same.isObserving] at on
    refine covered alive (observing.covered alive on) ?_
    rw [observing.registered.presenters, if_pos ⟨alive, on⟩]

/-- Taking the first task of the background sequence, a file is covered without it or by it. -/
theorem Covered.taken {task : ReceiverTask} {rest : List ReceiverTask}
    (background : receiver.background = task :: rest) (covered : Covered log receiver file) :
    Covered log ({ receiver with background := rest } : ShareExtensionItemReceiver) file ∨
      (∃ batch, task = .handleFile file.path batch) ∨ task = .processExistingFiles := by
  cases covered with
  | handled mem => exact Or.inl (.handled mem)
  | changed mem => exact Or.inl (.changed mem)
  | queued batch mem =>
    rw [background] at mem
    rcases List.mem_cons.mp mem with first | later
    · simp [first.symm]
    · exact Or.inl (.queued batch later)
  | processing mem =>
    rw [background] at mem
    rcases List.mem_cons.mp mem with first | later
    · exact Or.inr (Or.inr first.symm)
    · exact Or.inl (.processing later)
  | received paths mem listed => exact Or.inl (.received paths mem listed)

/-- Taking the first task of the UI thread, a file is covered without it or listed by it. -/
theorem Covered.takenUI {task : ReceiverUITask} {rest : List ReceiverUITask}
    (ui : receiver.ui = task :: rest) (covered : Covered log receiver file) :
    Covered log ({ receiver with ui := rest } : ShareExtensionItemReceiver) file ∨
      ∃ paths, task = .entriesReceived paths ∧ file.path ∈ paths := by
  cases covered with
  | handled mem => exact Or.inl (.handled mem)
  | changed mem => exact Or.inl (.changed mem)
  | queued batch mem => exact Or.inl (.queued batch mem)
  | processing mem => exact Or.inl (.processing mem)
  | received paths mem listed =>
    rw [ui] at mem
    rcases List.mem_cons.mp mem with first | later
    · simp [first.symm, listed]
    · exact Or.inl (.received paths later listed)

/-- Deleting a file, or failing to, leaves everything that covers the others. -/
theorem deleteFileAtURL_keeps (receiver : ShareExtensionItemReceiver) (path : String)
    (batch deletes : Bool) :
    SameRegistration receiver (receiver.deleteFileAtURL path batch deletes).1 ∧
      (receiver.deleteFileAtURL path batch deletes).1.files.Sublist receiver.files ∧
      (∀ log events file, Covered log receiver file →
        Covered (log ++ events) (receiver.deleteFileAtURL path batch deletes).1 file) ∧
      .becameActive ∉ (receiver.deleteFileAtURL path batch deletes).2 ∧
      .folderCreated ∉ (receiver.deleteFileAtURL path batch deletes).2 := by
  unfold deleteFileAtURL
  have posted : ∀ task ∈ receiver.ui, task ∈ receiver.ui ++ [.endBatchUpdates] :=
    fun task mem => List.mem_append_left _ mem
  cases deletes with
  | true =>
    cases batch with
    | true =>
      exact ⟨⟨rfl, rfl, rfl, rfl, rfl, rfl⟩, List.filter_sublist,
        fun _ _ _ covered => covered.grow (fun _ => id) (fun _ => id) posted,
        by simp, by simp⟩
    | false =>
      exact ⟨⟨rfl, rfl, rfl, rfl, rfl, rfl⟩, List.filter_sublist,
        fun _ _ _ covered => covered.grow (fun _ => id) (fun _ => id) fun _ => id,
        by simp, by simp⟩
  | false =>
    cases batch with
    | true =>
      exact ⟨⟨rfl, rfl, rfl, rfl, rfl, rfl⟩, List.Sublist.refl _,
        fun _ _ _ covered => covered.grow (fun _ => id) (fun _ => id) posted,
        by simp, by simp⟩
    | false =>
      exact ⟨.refl receiver, List.Sublist.refl _,
        fun _ _ _ covered => covered.append,
        by simp, by simp⟩

/-- The file at a path, of files at distinct paths. -/
theorem find?_path (distinct : (receiver.files.map SharedFile.path).Nodup)
    (mem : file ∈ receiver.files) :
    receiver.files.find? (fun other => other.path = file.path) = some file := by
  cases found : receiver.files.find? (fun other => other.path = file.path) <;>
    grind [List.inj_on_of_nodup_map]

/-- Handling the file at a path handles it, and covers the others as before. -/
theorem handleFileAtURL_observing {path : String} {batch coordinates deletes : Bool}
    {rest : List ReceiverTask} (observing : Observing log receiver)
    (background : receiver.background = .handleFile path batch :: rest)
    (handled : ({ receiver with background := rest } : ShareExtensionItemReceiver).handleFileAtURL
      device path batch coordinates deletes = (after, events)) :
    Observing (log ++ events) after := by
  have others : ∀ file, Covered log receiver file → file.path ≠ path →
      Covered log ({ receiver with background := rest } : ShareExtensionItemReceiver) file := by
    intro file covered other
    grind [covered.taken]
  unfold handleFileAtURL at handled
  split at handled
  · next absent =>
    cases handled
    have none : ∀ file ∈ receiver.files, file.path ≠ path := by
      simpa using absent
    exact observing.same ⟨rfl, rfl, rfl, rfl, rfl, rfl⟩ ⟨List.not_mem_nil, List.not_mem_nil⟩
      observing.distinct (by grind)
  · next found foundAt =>
    have covers : ∀ (last : ShareExtensionItemReceiver) (more : List ReceiverEvent),
        (∀ file, Covered log ({ receiver with background := rest } :
          ShareExtensionItemReceiver) file →
            Covered (log ++ .handled found.id :: more) last file) →
        (∀ file ∈ receiver.files, file.legacy = false → Covered log receiver file) →
        ∀ file ∈ receiver.files, file.legacy = false →
          Covered (log ++ .handled found.id :: more) last file := by
      intro last more keeps covered file mem fresh
      by_cases at_ : file.path = path
      · have this := find?_path observing.distinct mem
        rw [at_] at this
        cases this.symm.trans foundAt
        exact .handled (List.mem_append_right _ List.mem_cons_self)
      · grind
    have deleted : ∀ outcome : Outcome,
        outcome = ({ receiver with background := rest } :
          ShareExtensionItemReceiver).deleteFileAtURL path batch deletes →
        Observing (log ++ .handled found.id :: outcome.2) outcome.1 := by
      obtain ⟨same, sub, keeps, noActive, noCreated⟩ := deleteFileAtURL_keeps
        ({ receiver with background := rest } : ShareExtensionItemReceiver) path batch deletes
      have same : SameRegistration receiver (({ receiver with background := rest } :
          ShareExtensionItemReceiver).deleteFileAtURL path batch deletes).1 :=
        ⟨same.observesApplication, same.hasTaskRunner, same.isObserving, same.created,
          same.active, same.presenters⟩
      grind [observing.same, observing.distinct]
    split at handled
    · cases handled
      refine observing.same ⟨rfl, rfl, rfl, rfl, rfl, rfl⟩ ⟨by simp, by simp⟩
        observing.distinct fun _ covered _ => ?_
      exact covers _ _ (fun _ kept => kept.append) covered
    · split at handled
      · cases handled
        grind
      · cases handled
        grind
      · cases handled
        refine observing.same ⟨rfl, rfl, rfl, rfl, rfl, rfl⟩ ⟨by simp, by simp⟩
          observing.distinct fun _ covered _ => ?_
        exact covers _ _ (fun _ kept => (by grind [postUITask, kept.grow])) covered

theorem performTask_observing {task : ReceiverTask} {rest : List ReceiverTask}
    {coordinates deletes : Bool} (observing : Observing log receiver)
    (background : receiver.background = task :: rest)
    (performed : ({ receiver with background := rest } : ShareExtensionItemReceiver).performTask
      device coordinates deletes task = (after, events)) :
    Observing (log ++ events) after := by
  cases turn : task with
  | createReadingListFolder =>
    subst turn
    cases performed
    refine observing.same ⟨rfl, rfl, rfl, rfl, rfl, rfl⟩ ⟨by simp, by simp⟩
      observing.distinct fun _ covered _ file mem fresh => ?_
    rcases (covered file mem fresh).taken background with kept | ⟨_, other⟩ | other
    · exact kept.grow (fun _ => id) (fun _ => id) fun _ mem => List.mem_append_left _ mem
    · cases other
    · cases other
  | processExistingFiles =>
    subst turn
    cases performed
    unfold processExistingFiles
    -- A file that is there is in one of the two folders, so the list names its path.
    have listed : ∀ file ∈ receiver.files, file.legacy = false →
        file.path ∈ (receiver.files.filter SharedFile.legacy ++
          receiver.files.filter fun file => !file.legacy).map SharedFile.path :=
      by grind
    dsimp only
    split
    · next empty =>
      refine observing.same ⟨rfl, rfl, rfl, rfl, rfl, rfl⟩ ⟨by simp, by simp⟩
        observing.distinct fun _ _ _ file mem fresh => ?_
      grind
    · refine observing.same ⟨rfl, rfl, rfl, rfl, rfl, rfl⟩ ⟨by simp, by simp⟩
        observing.distinct fun _ _ _ file mem fresh => ?_
      exact .received _ (List.mem_append_right _ (List.mem_singleton.mpr rfl))
        (listed file mem fresh)
  | handleFile _ _ =>
    subst turn
    exact handleFileAtURL_observing observing background performed
  | deleteFile path batch =>
    subst turn
    obtain ⟨same, sub, keeps, noActive, noCreated⟩ := deleteFileAtURL_keeps
      ({ receiver with background := rest } : ShareExtensionItemReceiver) path batch deletes
    change deleteFileAtURL _ path batch deletes = _ at performed
    rw [performed] at same sub keeps noActive noCreated
    have same : SameRegistration receiver after :=
      ⟨same.observesApplication, same.hasTaskRunner, same.isObserving, same.created,
        same.active, same.presenters⟩
    refine observing.same same ⟨noActive, noCreated⟩ ((sub.map _).nodup observing.distinct)
      fun _ covered _ file mem fresh => ?_
    rcases (covered file (sub.subset mem) fresh).taken background with kept | ⟨_,
      other⟩ | other <;> grind

/-! ## Tasks of the UI thread -/

/-- The creation of the folder is reported while the application is active exactly if the
receiver has not been shut down. -/
def CreatedWhileActive (receiver : ShareExtensionItemReceiver) : Input → Prop
  | .runUITask => receiver.ui.head? = some .readingListFolderCreated →
      receiver.active = receiver.hasTaskRunner
  | _ => True

theorem performUITask_observing {task : ReceiverUITask} {rest : List ReceiverUITask}
    (observing : Observing log receiver) (inTime : CreatedWhileActive receiver .runUITask)
    (ui : receiver.ui = task :: rest)
    (performed : ({ receiver with ui := rest } : ShareExtensionItemReceiver).performUITask task =
      (after, events)) : Observing (log ++ events) after := by
  cases turn : task with
  | readingListFolderCreated =>
    subst turn
    have same := inTime (by rw [ui]; rfl)
    change onReadingListFolderCreated _ = _ at performed
    unfold onReadingListFolderCreated at performed
    split at performed
    · next active =>
      cases performed
      have alive : receiver.hasTaskRunner = true := same.symm.trans active
      have told := applicationDidBecomeActive_observing
        { receiver with ui := rest, readingListFolderCreated := true }
        (log ++ [.folderCreated]) observing.registered.notified alive active
        (by simpa [alive] using observing.registered.presenters) observing.distinct
        (fun _ => rfl) fun on => ⟨rfl, (observing.posted alive on).append (by simp),
          fun file mem fresh => ?_⟩
      · rwa [List.append_assoc] at told
      · rcases (observing.covered alive on file mem fresh).takenUI ui with kept | ⟨_, other, _⟩
        · simp [kept.grow]
        · cases other
    · next inactive =>
      cases performed
      have dead : receiver.hasTaskRunner = false :=
        same.symm.trans (Bool.eq_false_iff.mpr inactive)
      have impossible : ∀ goal : Prop, receiver.hasTaskRunner = true → goal := by
        simp [dead]
      exact ⟨observing.registered.same ⟨rfl, rfl, rfl, rfl, rfl, rfl⟩,
        fun _ => impossible _, observing.distinct, impossible _, impossible _⟩
  | entriesReceived _ =>
    subst turn
    cases performed
    unfold entriesReceived
    split
    · refine observing.same ⟨rfl, rfl, rfl, rfl, rfl, rfl⟩ ⟨by simp, by simp⟩
        observing.distinct fun _ covered _ file mem fresh => ?_
      rcases (covered file mem fresh).takenUI ui with kept | ⟨listed, same, path⟩
      · exact kept.grow (fun _ => id) (fun _ mem => List.mem_append_left _ mem) fun _ => id
      · cases same
        exact .queued true (List.mem_append_right _ (List.mem_map_of_mem path))
    · next dead =>
      refine observing.same ⟨rfl, rfl, rfl, rfl, rfl, rfl⟩ ⟨by simp, by simp⟩
        observing.distinct fun alive => absurd alive dead
  | processEntry item path batch type url title =>
    subst turn
    have taken : ∀ file, Covered log receiver file → Covered log
        ({ receiver with ui := rest } : ShareExtensionItemReceiver) file := by
      intro file covered
      grind [covered.takenUI]
    change processEntry _ item path batch type url title = _ at performed
    unfold processEntry at performed
    split at performed
    · cases performed
      refine observing.same ⟨rfl, rfl, rfl, rfl, rfl, rfl⟩ ⟨by simp, by simp⟩
        observing.distinct fun _ covered _ file mem fresh => ?_
      grind
    · cases performed
      have quiet : ∀ event : ReceiverEvent, event = .becameActive ∨ event = .folderCreated →
          event ∉ (if type = kReadingListItem then [ReceiverEvent.addEntry item url title]
            else if type = kBookmarkItem then [.addURL item title url] else []) := by
        rintro event (rfl | rfl) <;> split <;> simp
      have quiet := And.intro (quiet _ (Or.inl rfl)) (quiet _ (Or.inr rfl))
      generalize (if type = kReadingListItem then _ else _ : List ReceiverEvent) = adds at quiet ⊢
      split
      · refine observing.same ⟨rfl, rfl, rfl, rfl, rfl, rfl⟩ quiet observing.distinct
          fun _ covered _ file mem fresh => ?_
        exact (taken file (covered file mem fresh)).grow (fun _ => id)
          (fun _ mem => List.mem_append_left _ mem) fun _ => id
      · refine observing.same ⟨rfl, rfl, rfl, rfl, rfl, rfl⟩ quiet observing.distinct
          fun _ covered _ file mem fresh => ?_
        grind
  | endBatchUpdates =>
    subst turn
    cases performed
    refine observing.same ⟨rfl, rfl, rfl, rfl, rfl, rfl⟩ ⟨by simp, by simp⟩
      observing.distinct fun _ covered _ file mem fresh => ?_
    rcases (covered file mem fresh).takenUI ui with kept | ⟨_, other, _⟩ <;> grind

/-! ## Steps and runs -/

/-- What the receiver is when it is inactive or shut down. -/
theorem Observing.idle (notified : receiver.observesApplication = receiver.hasTaskRunner)
    (presenters : receiver.presenters = 0)
    (off : receiver.hasTaskRunner = true →
      receiver.isObservingReadingListFolder = false ∧ receiver.active = false)
    (created : .folderCreated ∈ log → receiver.hasTaskRunner = true →
      receiver.readingListFolderCreated = true)
    (distinct : (receiver.files.map SharedFile.path).Nodup) : Observing log receiver := by
  have impossible : ∀ goal : Prop, receiver.hasTaskRunner = true →
      receiver.isObservingReadingListFolder = true → goal := by
    grind
  refine ⟨⟨notified, ?_, fun alive => ?_⟩, created, distinct, impossible _, impossible _⟩
  · grind
  · simp [(off alive).1, (off alive).2]

theorem Registered.withoutObserving (registered : Registered receiver)
    (off : ¬(receiver.hasTaskRunner = true ∧ receiver.isObservingReadingListFolder = true)) :
    receiver.presenters = 0 := by
  rw [registered.presenters, if_neg off]

/-- What is left when the registration of an observing receiver is removed. -/
theorem Registered.removed (registered : Registered receiver) : receiver.presenters - 1 = 0 := by
  rw [registered.presenters]
  split
  · rfl
  · rfl

variable (observing : Observing log receiver)
include observing

theorem becomeActive_observing (inactive : receiver.active = false) :
    Observing (log ++ receiver.becomeActive.2) receiver.becomeActive.1 := by
  have registered := observing.registered
  have idle : receiver.hasTaskRunner = true → receiver.isObservingReadingListFolder = false := by
    intro alive
    simp [registered.observing alive, inactive]
  unfold becomeActive
  dsimp only
  split
  · next notified =>
    have alive : receiver.hasTaskRunner = true := registered.notified.symm.trans notified
    have told := applicationDidBecomeActive_observing { receiver with active := true }
      (log ++ [.becameActive]) registered.notified alive rfl
      (by simpa [alive] using registered.presenters) observing.distinct
      (by grind [observing.created])
      fun on => by
        rw [idle alive] at on
        cases on
    rwa [List.append_assoc] at told
  · next unnotified =>
    have dead : ¬receiver.hasTaskRunner = true :=
      fun alive => unnotified (registered.notified.trans alive)
    exact .idle registered.notified (registered.withoutObserving fun both => dead both.1)
      (fun alive => absurd alive dead) (fun _ alive => absurd alive dead) observing.distinct

theorem resignActive_observing :
    Observing (log ++ receiver.resignActive.2) receiver.resignActive.1 := by
  have registered := observing.registered
  have created : .folderCreated ∈ log ++ [.resignedActive] → receiver.hasTaskRunner = true →
      receiver.readingListFolderCreated = true :=
    by grind [observing.created]
  unfold resignActive
  dsimp only
  split
  · unfold applicationWillResignActive
    split
    · exact .idle registered.notified registered.removed (fun _ => ⟨rfl, rfl⟩) created
        observing.distinct
    · next off =>
      have idle : receiver.isObservingReadingListFolder = false := Bool.eq_false_iff.mpr off
      exact .idle registered.notified (registered.withoutObserving fun both => off both.2)
        (fun _ => ⟨idle, rfl⟩) created observing.distinct
  · next unnotified =>
    have dead : ¬receiver.hasTaskRunner = true :=
      fun alive => unnotified (registered.notified.trans alive)
    exact .idle registered.notified (registered.withoutObserving fun both => dead both.1)
      (fun alive => absurd alive dead) created observing.distinct

/-- After the shutdown the receiver is no longer registered. -/
theorem shutdown_observing : Observing (log ++ []) receiver.shutdown := by
  have registered := observing.registered
  refine .idle rfl ?_ (fun alive => by cases alive) (fun _ alive => by cases alive)
    observing.distinct
  grind [shutdown, registered.removed, registered.withoutObserving]

/-- `presentedSubitemDidChangeAtURL:` posts what the change was pending for. -/
theorem change_observing (path : String) :
    Observing (log ++ []) (receiver.presentedSubitemDidChangeAtURL path) := by
  unfold presentedSubitemDidChangeAtURL
  dsimp only
  split
  · refine observing.same ⟨rfl, rfl, rfl, rfl, rfl, rfl⟩ ⟨by simp, by simp⟩
      observing.distinct fun _ covered _ file mem fresh => ?_
    have more : ∀ task ∈ receiver.background, task ∈ receiver.background ++
        [.handleFile path false] := fun task mem => List.mem_append_left _ mem
    by_cases named : file.path = path
    · exact .queued false (List.mem_append_right _ (List.mem_singleton.mpr (by rw [named])))
    · cases covered file mem fresh with
      | handled mem => exact .handled (List.mem_append_left _ mem)
      | changed mem => exact .changed ((List.mem_erase_of_ne named).mpr mem)
      | queued batch mem => exact .queued batch (more _ mem)
      | processing mem => exact .processing (more _ mem)
      | received paths mem listed => exact .received paths mem listed
  · next dead =>
    exact observing.same ⟨rfl, rfl, rfl, rfl, rfl, rfl⟩ ⟨by simp, by simp⟩
      observing.distinct fun alive => absurd alive dead

/-- A file is dropped: its presenter will be told, or nothing is observed. -/
theorem drop_observing {path : String} {legacy : Bool} {entry : Option ShareItemEntry}
    (free : ∀ file ∈ receiver.files, file.path ≠ path) :
    Observing (log ++ []) (receiver.drop path legacy entry) := by
  have distinct : ((receiver.files ++ [SharedFile.mk receiver.nextFile path legacy entry]).map
      SharedFile.path).Nodup := by
    grind [observing.distinct]
  refine observing.same ⟨rfl, rfl, rfl, rfl, rfl, rfl⟩ ⟨by simp, by simp⟩ distinct
    fun _ covered one file mem fresh => ?_
  rcases List.mem_append.mp mem with old | new
  · refine (covered file old fresh).grow (fun other mem => ?_) (fun _ => id) fun _ => id
    grind [drop]
  · cases List.mem_singleton.mp new
    refine .changed ?_
    have told : 0 < receiver.presenters ∧ legacy = false := ⟨one ▸ Nat.one_pos, fresh⟩
    simp [drop, if_pos told]

theorem step_observing (offered : receiver.Offered input)
    (inTime : CreatedWhileActive receiver input)
    (stepped : receiver.step device input = some (after, events)) :
    Observing (log ++ events) after := by
  cases input with
  | becomeActive =>
    have told := becomeActive_observing observing offered
    rwa [show receiver.becomeActive = (after, events) from Option.some.inj stepped] at told
  | resignActive =>
    have told := resignActive_observing observing
    rwa [show receiver.resignActive = (after, events) from Option.some.inj stepped] at told
  | shutdown =>
    cases stepped
    exact shutdown_observing observing
  | runTask _ _ =>
    unfold ShareExtensionItemReceiver.step at stepped
    grind [performTask_observing]
  | runUITask =>
    unfold ShareExtensionItemReceiver.step at stepped
    grind [performUITask_observing]
  | change path =>
    cases stepped
    exact change_observing observing path
  | drop _ _ _ =>
    cases stepped
    exact drop_observing observing offered

omit observing

/-- A receiver that is neither inactive nor shut down, and knows of the folder, observes it and
has looked for files since the application became active; no file in it is missed. -/
def FolderObserved (log : List ReceiverEvent) (receiver : ShareExtensionItemReceiver) : Prop :=
  .folderCreated ∈ log → receiver.active = true → receiver.hasTaskRunner = true →
    receiver.isObservingReadingListFolder = true ∧ receiver.presenters = 1 ∧
      PostedSinceActive log ∧
      ∀ file ∈ receiver.files, file.legacy = false → Covered log receiver file

/-- When the creation of the folder is reported in time, the receiver observes it. -/
theorem run_folderObserved {active : Bool}
    (run : Runs (step device)
      (fun receiver input => receiver.Offered input ∧ CreatedWhileActive receiver input)
      (initial active) log receiver) :
    receiver.presenters ≤ 1 ∧ (receiver.active = false → receiver.presenters = 0) ∧
      FolderObserved log receiver := by
  have idle : Observing [] (initial active) :=
    ⟨⟨rfl, rfl, fun _ => rfl⟩, fun mem => absurd mem List.not_mem_nil, List.nodup_nil,
      (fun _ on => by cases on), fun _ on => by cases on⟩
  have observing : Observing log receiver :=
    run.invariant_outputs Observing idle (by grind [step_observing])
  have registered := observing.registered
  refine ⟨?_, fun inactive => ?_, fun created active alive => ?_⟩
  · grind [registered.presenters]
  · grind [registered.withoutObserving, registered.observing]
  · have on : receiver.isObservingReadingListFolder = true := by
      rw [registered.observing alive, observing.created created alive, active]
      rfl
    refine ⟨on, ?_, observing.posted alive on, observing.covered alive on⟩
    rw [registered.presenters, if_pos ⟨alive, on⟩]

instance (receiver : ShareExtensionItemReceiver) :
    (input : Input) → Decidable (CreatedWhileActive receiver input)
  | .runUITask => inferInstanceAs (Decidable (_ → _))
  | .becomeActive | .resignActive | .shutdown | .runTask _ _ | .change _ | .drop _ _ _ =>
    isTrue trivial

/-- The application is left and entered again after the folder was created. -/
theorem run_folderObserved_reentered : ∃ (log : List ReceiverEvent)
    (receiver : ShareExtensionItemReceiver), receiver.presenters = 1 ∧ PostedSinceActive log ∧
      ReceiverEvent.becameActive ∈ log := by
  have idle : Runs (step ⟨fun _ => true, fun _ => true⟩)
      (fun receiver input => receiver.Offered input ∧ CreatedWhileActive receiver input)
      (initial true) [] (initial true) := .start
  have observed := run_folderObserved (idle.replay
    [.runTask true true, .runUITask, .resignActive, .drop "item" false none, .becomeActive]
    (Option.eq_some_of_isSome (by decide +kernel)))
  obtain ⟨-, registered, posted, -⟩ := observed.2.2 (by decide +kernel) (by decide +kernel)
    (by decide +kernel)
  exact ⟨_, _, registered, posted, by decide +kernel⟩

/-- The creation is reported while the application is inactive, and is forgotten. -/
theorem run_folderForgotten : ¬ ∀ (log : List ReceiverEvent)
    (receiver : ShareExtensionItemReceiver),
    Runs (step ⟨fun _ => true, fun _ => true⟩) Offered (initial true) log receiver →
      FolderObserved log receiver := by
  intro observed
  have idle : Runs (step ⟨fun _ => true, fun _ => true⟩) Offered (initial true) []
    (initial true) := .start
  have forgotten := observed _ _ (idle.replay
    [.resignActive, .runTask true true, .runUITask, .becomeActive]
    (Option.eq_some_of_isSome (by decide +kernel)))
    (by decide +kernel) (by decide +kernel) (by decide +kernel)
  exact absurd forgotten.1 (by decide +kernel)

end ShareExtensionItemReceiver

end ChromiumIos
