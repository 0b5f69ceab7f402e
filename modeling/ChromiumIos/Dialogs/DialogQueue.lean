import ChromiumIos.Dialogs.DialogPresenter
import ChromiumIos.Lib.Fifo

/-!
# The queue of the presenter

The queue and the map of the presenter agree after every step that returns, and dialogs leave
the queue in the order in which they were requested, one at a time and only while the
presenter is active.  What a step does to the screen and to the sheets is said once, for all
parts of a step that may show the next dialog.
-/

namespace ChromiumIos.DialogPresenter

open Lib

variable {WebState : Type} [DecidableEq WebState]

/-! ## What a log says -/

/-- The queue of dialogs: a dialog that is requested joins it, one that is withdrawn leaves it,
and one that is shown was the first. -/
def queueEvents (log : List (DialogEvent WebState)) :
    List (QueueEvent (DialogCoordinator WebState)) :=
  log.filterMap fun event =>
    match event with
    | .requested dialog => some (.push dialog)
    | .withdrawn dialog => some (.drop dialog)
    | .shown dialog => some (.pop dialog)
    | _ => none

/-- The dialog that is shown, and whether dialogs were only shown when there was none and the
presenter was active. -/
structure Stage (WebState : Type) where
  showing : Option (DialogCoordinator WebState) := none
  active : Bool := false
  oneAtATime : Bool := true

def Stage.record (stage : Stage WebState) : DialogEvent WebState → Stage WebState
  | .shown dialog =>
    { stage with
      showing := some dialog
      oneAtATime := stage.oneAtATime && stage.showing.isNone && stage.active }
  | .closed _ => { stage with showing := none }
  | .activeChanged active => { stage with active }
  | _ => stage

def stage (log : List (DialogEvent WebState)) : Stage WebState := log.foldl Stage.record {}

variable {kind : DialogKind} {confirm active : Bool} {sheet : BlockingConfirmation WebState}
  {input : DialogInput WebState} {coordinator : Option (DialogCoordinator WebState)}
  (presenter : DialogPresenter WebState) (dialog : DialogCoordinator WebState)

def waiting : List (DialogCoordinator WebState) :=
  presenter.queuedWebStates.filterMap presenter.dialogCoordinatorsForWebStates

/-- The presenter once the first dialog of the queue is shown and `rest` is left. -/
def showing (rest : List WebState) : DialogPresenter WebState :=
  { presenter with
    queuedWebStates := rest
    presentedDialogWebState := some dialog.webState
    presentedDialogCoordinator := some dialog
    dialogCoordinatorsForWebStates :=
      Function.update presenter.dialogCoordinatorsForWebStates dialog.webState none
    alertOnScreen := true }

def closing : DialogPresenter WebState :=
  { presenter with
    presentedDialogWebState := none
    presentedDialogCoordinator := none
    blockingConfirmationCoordinator := none }

/-- The presenter once a dialog has been put at the end of the queue. -/
def queueing : DialogPresenter WebState :=
  { presenter with
    queuedWebStates := presenter.queuedWebStates ++ [dialog.webState]
    dialogCoordinatorsForWebStates :=
      Function.update presenter.dialogCoordinatorsForWebStates dialog.webState (some dialog) }

/-- The presenter once a dialog has been taken out of the queue. -/
def withdrawing : DialogPresenter WebState :=
  { presenter with
    queuedWebStates := presenter.queuedWebStates.erase dialog.webState
    dialogCoordinatorsForWebStates :=
      Function.update presenter.dialogCoordinatorsForWebStates dialog.webState none }

variable {log : List (DialogEvent WebState)} {events : List (DialogEvent WebState)}
variable {presenter after : DialogPresenter WebState}

omit [DecidableEq WebState] in
theorem stage_append (log events : List (DialogEvent WebState)) :
    stage (log ++ events) = events.foldl Stage.record (stage log) :=
  List.foldl_append

theorem replay_append_of {queue next : List (DialogCoordinator WebState)}
    (before : QueueEvent.replay [] (queueEvents log) = some queue)
    (more : QueueEvent.replay queue (queueEvents events) = some next) :
    QueueEvent.replay [] (queueEvents (log ++ events)) = some next := by
  unfold queueEvents at *
  simp [QueueEvent.replay_append, before, more]

omit [DecidableEq WebState] in
/-- A dialog that is stopped takes its sheet along. -/
theorem sheetsOnScreen_closing (presenter : DialogPresenter WebState) :
    presenter.closing.sheetsOnScreen = [] :=
  ite_self []

/-! ## What the parts of a step do -/

variable {delegateIsPresenting : Bool} {webState : WebState}

theorem showNextIfQueued_cases
    (shown : presenter.showNextIfQueued delegateIsPresenting = some (after, events)) :
    (after = presenter ∧ events = []) ∨ presenter.showNextDialog = some (after, events) := by
  unfold showNextIfQueued at shown
  grind

/-- The dialog is not the presented one, or it is closed and the next one may be shown. -/
theorem dialogCoordinatorWasStopped_cases
    (stopped : presenter.dialogCoordinatorWasStopped coordinator delegateIsPresenting =
      some (after, events)) :
    (coordinator ≠ presenter.presentedDialogCoordinator ∧ after = presenter ∧ events = []) ∨
      (coordinator = presenter.presentedDialogCoordinator ∧
        ∃ shown, presenter.closing.showNextIfQueued delegateIsPresenting = some (after, shown) ∧
          events = presenter.presentedDialogCoordinator.toList.map .closed ++ shown) := by
  unfold dialogCoordinatorWasStopped at stopped
  split at stopped
  · next other =>
      cases stopped
      grind
  · next own =>
      obtain ⟨⟨next, shown⟩, stepped, returned⟩ := bind_eq_some stopped
      grind [closing]

/-- A dialog is requested, and shown if nothing stands in its way. -/
theorem addDialogCoordinator_cases {dialog : DialogCoordinator WebState}
    (added : presenter.addDialogCoordinator dialog dialog.webState delegateIsPresenting =
      some (after, events)) :
    (after = presenter.queueing dialog ∧ events = [.requested dialog]) ∨
      ∃ shown, (presenter.queueing dialog).showNextDialog = some (after, shown) ∧
        events = .requested dialog :: shown := by
  obtain ⟨_, added⟩ := dcheck_then added
  obtain ⟨_, added⟩ := dcheck_then added
  obtain ⟨showingDialog, _, added⟩ := bind_eq_some added
  split at added
  · obtain ⟨⟨next, shown⟩, stepped, returned⟩ := bind_eq_some added
    grind [queueing, showNextDialog]
  · cases added
    exact .inl ⟨rfl, rfl⟩

/-- A dialog with a blocking option is one of a WebState with a blocking state. -/
theorem runDialog_cases
    (ran : presenter.runDialog kind webState delegateIsPresenting = some (after, events)) :
    ∃ (dialog : DialogCoordinator WebState) (blockingStates : WebState → Bool),
      dialog.webState = webState ∧
      (dialog.blockingOption = true → blockingStates webState = true) ∧
      (∀ other, presenter.blockingStates other = true → blockingStates other = true) ∧
      { presenter with
        blockingStates
        coordinatorsMade := presenter.coordinatorsMade + 1 }.addDialogCoordinator dialog
          dialog.webState delegateIsPresenting = some (after, events) := by
  cases kind with
  | javaScript showBlockingOption =>
    refine ⟨⟨presenter.coordinatorsMade, webState, showBlockingOption⟩,
      Function.update presenter.blockingStates webState true, rfl, ?_, ?_, ran⟩
    · simp
    · grind
  | auth =>
    exact ⟨⟨presenter.coordinatorsMade, webState, false⟩, presenter.blockingStates, rfl,
      nofun, fun _ known => known, ran⟩

theorem tapSheet_cases
    (tapped : presenter.tapSheet sheet confirm delegateIsPresenting = some (after, events)) :
    ∃ selected stopped,
      { presenter with sheetOnScreen := false }.dialogCoordinatorWasStopped
        (presenter.weakCoordinator sheet.dialog) delegateIsPresenting = some (after, stopped) ∧
      (selected = [] ∨ ∃ webState, selected = [.blockingOptionSelected webState]) ∧
      events = selected ++ stopped := by
  unfold tapSheet at tapped
  split at tapped
  · obtain ⟨selected, chosen, tapped⟩ := bind_eq_some tapped
    obtain ⟨⟨next, stopped⟩, stepped, returned⟩ := bind_eq_some tapped
    obtain ⟨webState, _, chosen⟩ := bind_eq_some chosen
    grind [weakCoordinator, dcheck_then]
  · obtain ⟨_, ⟨⟩, tapped⟩ := bind_eq_some tapped
    obtain ⟨⟨next, stopped⟩, stepped, returned⟩ := bind_eq_some tapped
    grind [dialogCoordinatorWasStopped, weakCoordinator]

omit [DecidableEq WebState] in
/-- The sheet of the presented dialog takes the place of its alert. -/
theorem tapBlockingOption_cases
    (tapped : presenter.tapBlockingOption = some (after, events)) :
    ∃ dialog, presenter.presentedDialogCoordinator = some dialog ∧
      after = { presenter with
        alertOnScreen := false
        blockingConfirmationCoordinator := some ⟨dialog⟩
        sheetOnScreen := true } ∧ events = [] := by
  obtain ⟨dialog, presented, returned⟩ := bind_eq_some tapped
  grind

/-- The presented dialog is stopped, or a dialog leaves the queue, or there is none. -/
theorem cancelDialogForWebState_cases
    (cancelled : presenter.cancelDialogForWebState webState delegateIsPresenting =
      some (after, events)) :
    (presenter.presentedDialogWebState = some webState ∧
      { presenter with alertOnScreen := false }.dialogCoordinatorWasStopped
        presenter.presentedDialogCoordinator delegateIsPresenting = some (after, events)) ∨
    (presenter.presentedDialogWebState ≠ some webState ∧
      ((presenter.dialogCoordinatorsForWebStates webState = none ∧
          after = presenter ∧ events = []) ∨
        ∃ dialog, presenter.dialogCoordinatorsForWebStates webState = some dialog ∧
          after = { presenter with
            queuedWebStates := presenter.queuedWebStates.erase webState
            dialogCoordinatorsForWebStates :=
              Function.update presenter.dialogCoordinatorsForWebStates webState none } ∧
          events = [.withdrawn dialog])) := by
  grind [cancelDialogForWebState, dcheck_then]

theorem tryToPresent_cases
    (tried : presenter.tryToPresent delegateIsPresenting = some (after, events)) :
    (after = presenter ∧ events = []) ∨ presenter.showNextDialog = some (after, events) := by
  unfold tryToPresent at tried
  split at tried
  · cases tried
    simp
  · obtain ⟨_, _, tried⟩ := bind_eq_some tried
    grind [dcheck_then, showNextIfQueued_cases]

theorem setActive_cases
    (changed : presenter.setActive active delegateIsPresenting = some (after, events)) :
    (after = presenter ∧ events = []) ∨
      ∃ tried, { presenter with active }.tryToPresent delegateIsPresenting =
        some (after, tried) ∧ events = .activeChanged active :: tried := by
  unfold setActive at changed
  split at changed
  · obtain ⟨⟨next, tried⟩, stepped, returned⟩ := bind_eq_some changed
    grind
  · cases changed
    simp

omit [DecidableEq WebState] in
theorem selectBlockingOption_of_presented
    (presented : presenter.presentedDialogWebState = some webState)
    (known : presenter.blockingStates webState = true) :
    presenter.selectBlockingOption = some [.blockingOptionSelected webState] := by
  simp [selectBlockingOption, presented, dcheck_of known]

/-! ## The queue and the map -/

/-- The fields of the presenter agree with one another and with what has happened. -/
structure Sound (log : List (DialogEvent WebState)) (presenter : DialogPresenter WebState) :
    Prop where
  nodup : presenter.queuedWebStates.Nodup
  queued : ∀ webState, webState ∈ presenter.queuedWebStates ↔
    ∃ dialog, presenter.dialogCoordinatorsForWebStates webState = some dialog
  keyed : ∀ webState dialog,
    presenter.dialogCoordinatorsForWebStates webState = some dialog → dialog.webState = webState
  presented : presenter.presentedDialogWebState =
    presenter.presentedDialogCoordinator.map DialogCoordinator.webState
  notQueued : ∀ dialog, presenter.presentedDialogCoordinator = some dialog →
    dialog.webState ∉ presenter.queuedWebStates
  replays : QueueEvent.replay [] (queueEvents log) = some presenter.waiting
  showing : (stage log).showing = presenter.presentedDialogCoordinator
  active : (stage log).active = presenter.active
  oneAtATime : (stage log).oneAtATime = true

namespace Sound

variable (sound : Sound log presenter)
include sound

/-- Nothing is said about the screen, the sheet, the blocking states and the numbers. -/
theorem of_same (queuedWebStates : after.queuedWebStates = presenter.queuedWebStates)
    (dialogs : after.dialogCoordinatorsForWebStates = presenter.dialogCoordinatorsForWebStates)
    (webState : after.presentedDialogWebState = presenter.presentedDialogWebState)
    (coordinator : after.presentedDialogCoordinator = presenter.presentedDialogCoordinator)
    (active : after.active = presenter.active) : Sound log after := by
  constructor
  · rw [queuedWebStates]
    exact sound.nodup
  · rw [queuedWebStates, dialogs]
    exact sound.queued
  · rw [dialogs]
    exact sound.keyed
  · rw [webState, coordinator]
    exact sound.presented
  · rw [coordinator, queuedWebStates]
    exact sound.notQueued
  · unfold waiting
    rw [queuedWebStates, dialogs]
    exact sound.replays
  · rw [coordinator]
    exact sound.showing
  · rw [active]
    exact sound.active
  · exact sound.oneAtATime

theorem dismissed : Sound log { presenter with alertOnScreen := false } :=
  sound.of_same rfl rfl rfl rfl rfl

theorem select (webState : WebState) :
    Sound (log ++ [.blockingOptionSelected webState]) presenter :=
  have staged := stage_append log [.blockingOptionSelected webState]
  { sound with
    replays := replay_append_of sound.replays rfl
    showing := (congrArg Stage.showing staged).trans sound.showing
    active := (congrArg Stage.active staged).trans sound.active
    oneAtATime := (congrArg Stage.oneAtATime staged).trans sound.oneAtATime }

theorem activate (active : Bool) :
    Sound (log ++ [.activeChanged active]) { presenter with active } :=
  have staged := stage_append log [.activeChanged active]
  { sound with
    replays := replay_append_of sound.replays rfl
    showing := (congrArg Stage.showing staged).trans sound.showing
    active := congrArg Stage.active staged
    oneAtATime := (congrArg Stage.oneAtATime staged).trans sound.oneAtATime }

theorem isShowingDialog_eq :
    presenter.isShowingDialog = some presenter.presentedDialogCoordinator.isSome := by
  simp [isShowingDialog, sound.presented]

omit sound

variable {webState : WebState} {delegateIsPresenting : Bool} {dialog : DialogCoordinator WebState}

include sound

/-- The dialogs that wait behind the first one. -/
theorem waiting_cons {rest : List WebState} (queue : presenter.queuedWebStates = webState :: rest) :
    ∃ dialog, presenter.dialogCoordinatorsForWebStates webState = some dialog ∧
      dialog.webState = webState ∧
      presenter.waiting = dialog :: rest.filterMap
        (Function.update presenter.dialogCoordinatorsForWebStates webState none) := by
  obtain ⟨dialog, found⟩ := (sound.queued webState).mp (by rw [queue]; exact List.mem_cons_self ..)
  refine ⟨dialog, found, sound.keyed _ _ found, ?_⟩
  have nodup := sound.nodup
  have apart : ∀ other ∈ rest, presenter.dialogCoordinatorsForWebStates other =
      Function.update presenter.dialogCoordinatorsForWebStates webState none other := by
    grind
  unfold waiting
  rw [queue, List.filterMap_cons_some found, List.filterMap_congr apart]

/-- The first dialog of the queue is shown, if the presenter is active and shows no other. -/
theorem showNextDialog_eq_some :
    presenter.showNextDialog = some (after, events) ↔
      presenter.active = true ∧ presenter.presentedDialogCoordinator = none ∧
        ∃ dialog rest, presenter.queuedWebStates = dialog.webState :: rest ∧
          presenter.dialogCoordinatorsForWebStates dialog.webState = some dialog ∧
          after = presenter.showing dialog rest ∧ events = [.shown dialog] := by
  unfold DialogPresenter.showNextDialog
  rw [sound.isShowingDialog_eq]
  constructor
  · intro shown
    obtain ⟨isActive, shown⟩ := dcheck_then shown
    obtain ⟨idle, shown⟩ := dcheck_then shown
    rw [Option.isSome_eq_false_iff, Option.isNone_iff_eq_none] at idle
    split at shown
    · cases shown
    · rename_i webState rest queue
      obtain ⟨dialog, found, rfl, _⟩ := sound.waiting_cons queue
      grind [DialogPresenter.showing]
  · rintro ⟨isActive, idle, dialog, rest, queue, found, rfl, rfl⟩
    simp [DialogPresenter.showing, idle, queue, found, isActive]

theorem showNextDialog (shown : presenter.showNextDialog = some (after, events)) :
    Sound (log ++ events) after := by
  obtain ⟨isActive, idle, dialog, _, queue, found, rfl, rfl⟩ :=
    sound.showNextDialog_eq_some.mp shown
  obtain ⟨_, foundOther, _, waits⟩ := sound.waiting_cons queue
  cases Option.some.inj (found.symm.trans foundOther)
  have nodup := sound.nodup
  rw [queue] at nodup
  obtain ⟨first, nodup⟩ := List.nodup_cons.mp nodup
  have staged := stage_append log [.shown dialog]
  constructor
  · exact nodup
  · intro webState
    by_cases same : webState = dialog.webState
    · subst same
      simp [DialogPresenter.showing, first]
    · have queued := sound.queued webState
      simpa [queue, or_iff_right same, DialogPresenter.showing, Function.update_of_ne same]
        using queued
  · intro webState waiting keyed
    by_cases same : webState = dialog.webState
    · subst same
      simp [DialogPresenter.showing] at keyed
    · simp only [DialogPresenter.showing, Function.update_of_ne same] at keyed
      exact sound.keyed _ _ keyed
  · rfl
  · rintro _ ⟨⟩
    exact first
  · refine replay_append_of sound.replays ?_
    rw [waits]
    simp [queueEvents, QueueEvent.replay, QueueEvent.perform, waiting, DialogPresenter.showing]
  · rw [staged]
    rfl
  · rw [staged]
    exact sound.active
  · rw [staged]
    change ((stage log).oneAtATime && (stage log).showing.isNone && (stage log).active) = true
    rw [sound.oneAtATime, sound.showing, sound.active, idle, isActive]
    rfl

theorem showNextIfQueued
    (shown : presenter.showNextIfQueued delegateIsPresenting = some (after, events)) :
    Sound (log ++ events) after := by
  obtain ⟨rfl, rfl⟩ | shown := showNextIfQueued_cases shown
  · rw [List.append_nil]
    exact sound
  · exact sound.showNextDialog shown

/-- The presented dialog is stopped. -/
theorem close (queuedWebStates : after.queuedWebStates = presenter.queuedWebStates)
    (dialogs : after.dialogCoordinatorsForWebStates = presenter.dialogCoordinatorsForWebStates)
    (webState : after.presentedDialogWebState = none)
    (coordinator : after.presentedDialogCoordinator = none)
    (active : after.active = presenter.active) :
    Sound (log ++ presenter.presentedDialogCoordinator.toList.map .closed) after := by
  cases presenting : presenter.presentedDialogCoordinator with
  | none =>
    rw [Option.toList_none, List.map_nil, List.append_nil]
    refine sound.of_same queuedWebStates dialogs ?_ ?_ active
    · rw [sound.presented, presenting, webState]
      rfl
    · rw [coordinator, presenting]
  | some dialog =>
    have staged := stage_append log [.closed dialog]
    constructor
    · rw [queuedWebStates]
      exact sound.nodup
    · rw [queuedWebStates, dialogs]
      exact sound.queued
    · rw [dialogs]
      exact sound.keyed
    · rw [webState, coordinator]
      rfl
    · rw [coordinator]
      rintro _ ⟨⟩
    · refine replay_append_of sound.replays ?_
      unfold waiting
      rw [queuedWebStates, dialogs]
      rfl
    · rw [coordinator]
      exact congrArg Stage.showing staged
    · rw [active]
      exact (congrArg Stage.active staged).trans sound.active
    · exact (congrArg Stage.oneAtATime staged).trans sound.oneAtATime

theorem dialogCoordinatorWasStopped
    (stopped : presenter.dialogCoordinatorWasStopped coordinator delegateIsPresenting =
      some (after, events)) : Sound (log ++ events) after := by
  obtain ⟨_, rfl, rfl⟩ | ⟨_, shown, stepped, rfl⟩ := dialogCoordinatorWasStopped_cases stopped
  · rw [List.append_nil]
    exact sound
  · rw [← List.append_assoc]
    refine Sound.showNextIfQueued ?_ stepped
    exact sound.close rfl rfl rfl rfl rfl

/-- A dialog is put at the end of the queue. -/
theorem request (absent : dialog.webState ∉ presenter.queuedWebStates)
    (idle : presenter.presentedDialogWebState ≠ some dialog.webState) :
    Sound (log ++ [.requested dialog]) (presenter.queueing dialog) := by
  have staged := stage_append log [.requested dialog]
  have others : ∀ webState ∈ presenter.queuedWebStates,
      presenter.dialogCoordinatorsForWebStates webState =
        Function.update presenter.dialogCoordinatorsForWebStates dialog.webState (some dialog)
          webState := by
    grind
  constructor
  · exact sound.nodup.append (by simp) (List.disjoint_singleton.mpr absent)
  · intro webState
    by_cases same : webState = dialog.webState
    · subst same
      simp [queueing]
    · simpa [queueing, same] using sound.queued webState
  · intro webState waiting keyed
    by_cases same : webState = dialog.webState
    · subst same
      simp only [queueing, Function.update_self] at keyed
      cases keyed
      rfl
    · simp only [queueing, Function.update_of_ne same] at keyed
      exact sound.keyed _ _ keyed
  · exact sound.presented
  · change ∀ presented, presenter.presentedDialogCoordinator = some presented →
      presented.webState ∉ presenter.queuedWebStates ++ [dialog.webState]
    intro presented isPresented waits
    rcases List.mem_append.mp waits with waits | isLast
    · exact sound.notQueued presented isPresented waits
    · apply idle
      rw [sound.presented, isPresented, ← List.mem_singleton.mp isLast]
      rfl
  · refine replay_append_of sound.replays ?_
    simp [QueueEvent.replay, waiting, queueEvents, queueing, ← List.filterMap_congr others,
      QueueEvent.perform]
  · exact (congrArg Stage.showing staged).trans sound.showing
  · exact (congrArg Stage.active staged).trans sound.active
  · exact (congrArg Stage.oneAtATime staged).trans sound.oneAtATime

/-- A dialog leaves the queue unseen. -/
theorem withdraw (found : presenter.dialogCoordinatorsForWebStates dialog.webState = some dialog) :
    Sound (log ++ [.withdrawn dialog]) (presenter.withdrawing dialog) := by
  have staged := stage_append log [.withdrawn dialog]
  constructor
  · exact sound.nodup.erase _
  · intro webState
    simp only [withdrawing, sound.nodup.mem_erase_iff]
    by_cases same : webState = dialog.webState
    · subst same
      simp
    · simpa [same] using sound.queued webState
  · intro webState waiting keyed
    by_cases same : webState = dialog.webState
    · subst same
      simp [withdrawing] at keyed
    · simp only [withdrawing, Function.update_of_ne same] at keyed
      exact sound.keyed _ _ keyed
  · exact sound.presented
  · intro presented isPresented waits
    exact sound.notQueued presented isPresented (List.mem_of_mem_erase waits)
  · refine replay_append_of sound.replays ?_
    change some (presenter.waiting.filter _) = some _
    unfold waiting withdrawing
    rw [sound.nodup.erase_eq_filter, List.filterMap_filter, List.filter_filterMap]
    refine congrArg some (List.filterMap_congr fun webState _ => ?_)
    by_cases same : webState = dialog.webState
    · subst same
      simp [found]
    · have apart : ∀ waits, presenter.dialogCoordinatorsForWebStates webState = some waits →
          waits ≠ dialog := by
        rintro _ keyed rfl
        exact same (sound.keyed _ _ keyed).symm
      cases keyed : presenter.dialogCoordinatorsForWebStates webState <;> grind
  · exact (congrArg Stage.showing staged).trans sound.showing
  · exact (congrArg Stage.active staged).trans sound.active
  · exact (congrArg Stage.oneAtATime staged).trans sound.oneAtATime

theorem addDialogCoordinator (absent : dialog.webState ∉ presenter.queuedWebStates)
    (idle : presenter.presentedDialogWebState ≠ some dialog.webState)
    (added : presenter.addDialogCoordinator dialog dialog.webState delegateIsPresenting =
      some (after, events)) : Sound (log ++ events) after := by
  have requested := sound.request absent idle
  obtain ⟨rfl, rfl⟩ | ⟨shown, stepped, rfl⟩ := addDialogCoordinator_cases added
  · exact requested
  · simpa using requested.showNextDialog stepped

theorem runDialog (absent : webState ∉ presenter.queuedWebStates)
    (idle : presenter.presentedDialogWebState ≠ some webState)
    (ran : presenter.runDialog kind webState delegateIsPresenting = some (after, events)) :
    Sound (log ++ events) after := by
  obtain ⟨_, blockingStates, rfl, _, _, added⟩ := runDialog_cases ran
  have known : Sound log { presenter with
      blockingStates
      coordinatorsMade := presenter.coordinatorsMade + 1 } :=
    sound.of_same rfl rfl rfl rfl rfl
  exact known.addDialogCoordinator absent idle added

theorem cancelDialogForWebState
    (cancelled : presenter.cancelDialogForWebState webState delegateIsPresenting =
      some (after, events)) : Sound (log ++ events) after := by
  obtain ⟨_, stopped⟩ | ⟨_, ⟨_, rfl, rfl⟩ | ⟨dialog, found, rfl, rfl⟩⟩ :=
    cancelDialogForWebState_cases cancelled
  · exact sound.dismissed.dialogCoordinatorWasStopped stopped
  · rw [List.append_nil]
    exact sound
  · obtain rfl := sound.keyed _ _ found
    exact sound.withdraw found

omit sound

theorem cancelQueuedDialogs (sound : Sound log presenter) {turns : Nat}
    (cancelled : presenter.cancelQueuedDialogs turns = some (after, events)) :
    Sound (log ++ events) after := by
  induction turns generalizing log presenter events with
  | zero =>
    grind [DialogPresenter.cancelQueuedDialogs]
  | succ _ ih =>
    unfold DialogPresenter.cancelQueuedDialogs at cancelled
    split at cancelled
    · grind
    · obtain ⟨⟨_, _⟩, stepped, cancelled⟩ := bind_eq_some cancelled
      obtain ⟨⟨_, _⟩, rest, returned⟩ := bind_eq_some cancelled
      cases returned
      simpa using ih (sound.cancelDialogForWebState stepped) rest

include sound

theorem cancelAllDialogs (cancelled : presenter.cancelAllDialogs = some (after, events)) :
    Sound (log ++ events) after := by
  obtain ⟨⟨_, _⟩, stepped, returned⟩ := bind_eq_some cancelled
  cases returned
  rw [← List.append_assoc]
  refine Sound.cancelQueuedDialogs ?_ stepped
  exact sound.close rfl rfl rfl rfl rfl

theorem tapButton (tapped : presenter.tapButton delegateIsPresenting = some (after, events)) :
    Sound (log ++ events) after := by
  exact sound.dismissed.dialogCoordinatorWasStopped tapped

theorem tapSheet
    (tapped : presenter.tapSheet sheet confirm delegateIsPresenting = some (after, events)) :
    Sound (log ++ events) after := by
  obtain ⟨selected, _, stepped, chosen, rfl⟩ := tapSheet_cases tapped
  have gone : Sound (log ++ selected) { presenter with sheetOnScreen := false } := by
    obtain rfl | ⟨webState, rfl⟩ := chosen
    · rw [List.append_nil]
      exact sound.of_same rfl rfl rfl rfl rfl
    · exact (sound.select webState).of_same rfl rfl rfl rfl rfl
  simpa using gone.dialogCoordinatorWasStopped stepped

theorem tapBlockingOption (tapped : presenter.tapBlockingOption = some (after, events)) :
    Sound (log ++ events) after := by
  obtain ⟨_, _, rfl, rfl⟩ := tapBlockingOption_cases tapped
  rw [List.append_nil]
  exact sound.of_same rfl rfl rfl rfl rfl

theorem tryToPresent (tried : presenter.tryToPresent delegateIsPresenting = some (after, events)) :
    Sound (log ++ events) after := by
  obtain ⟨rfl, rfl⟩ | shown := tryToPresent_cases tried
  · rw [List.append_nil]
    exact sound
  · exact sound.showNextDialog shown

theorem setActive
    (changed : presenter.setActive active delegateIsPresenting = some (after, events)) :
    Sound (log ++ events) after := by
  obtain ⟨rfl, rfl⟩ | ⟨tried, stepped, rfl⟩ := setActive_cases changed
  · rw [List.append_nil]
    exact sound
  · simpa using (sound.activate active).tryToPresent stepped

theorem step (canHappen : presenter.CanHappen input)
    (stepped : presenter.step input = some (after, events)) : Sound (log ++ events) after := by
  cases input with
  | runDialog _ _ _ =>
    exact sound.runDialog canHappen.1 canHappen.2 stepped
  | tapButton _ => exact sound.tapButton stepped
  | tapBlockingOption => exact sound.tapBlockingOption stepped
  | tapSheet _ _ _ => exact sound.tapSheet stepped
  | cancelDialogForWebState _ _ =>
    exact sound.cancelDialogForWebState stepped
  | cancelAllDialogs => exact sound.cancelAllDialogs stepped
  | setActive _ _ => exact sound.setActive stepped
  | tryToPresent _ => exact sound.tryToPresent stepped

omit sound

theorem fresh : Sound [] ({} : DialogPresenter WebState) where
  nodup := List.nodup_nil
  queued := by simp
  keyed := nofun
  presented := rfl
  notQueued := nofun
  replays := rfl
  showing := rfl
  active := rfl
  oneAtATime := rfl

end Sound

/-! ## What the presenter refers to -/

def RefersTo (presenter : DialogPresenter WebState) (dialog : DialogCoordinator WebState) : Prop :=
  (∃ webState, presenter.dialogCoordinatorsForWebStates webState = some dialog) ∨
    presenter.presentedDialogCoordinator = some dialog

/-- Dialogs may have left the queue, and if none was presented then one of them may be now. -/
structure Shows (presenter after : DialogPresenter WebState) : Prop where
  dialogs : ∀ dialog, after.RefersTo dialog → presenter.RefersTo dialog
  presented : presenter.presentedDialogCoordinator = none ∨
    (after.presentedDialogCoordinator = presenter.presentedDialogCoordinator ∧
      after.alertOnScreen = presenter.alertOnScreen)
  confirmation :
    after.blockingConfirmationCoordinator = presenter.blockingConfirmationCoordinator
  sheet : after.sheetOnScreen = presenter.sheetOnScreen
  states : after.blockingStates = presenter.blockingStates

namespace Shows

omit [DecidableEq WebState] in
theorem refl (presenter : DialogPresenter WebState) : Shows presenter presenter :=
  ⟨fun _ => id, .inr ⟨rfl, rfl⟩, rfl, rfl, rfl⟩

omit [DecidableEq WebState] in
theorem sheets (shows : Shows presenter after) :
    after.sheetsOnScreen = presenter.sheetsOnScreen := by
  unfold sheetsOnScreen
  rw [shows.sheet, shows.confirmation]

theorem of_showNextDialog (shown : presenter.showNextDialog = some (after, events)) :
    Shows presenter after := by
  obtain ⟨_, shown⟩ := dcheck_then shown
  obtain ⟨showingDialog, asked, shown⟩ := bind_eq_some shown
  obtain ⟨_, ⟨⟩⟩ := dcheck_then asked
  obtain ⟨idle, shown⟩ := dcheck_then shown
  split at shown
  · cases shown
  · next webState rest queue =>
      cases shown
      refine ⟨?_, .inl (Option.isNone_iff_eq_none.mp (Option.isSome_eq_false_iff.mp idle)),
        rfl, rfl, rfl⟩
      grind [RefersTo]

variable {delegateIsPresenting : Bool}

theorem of_showNextIfQueued
    (shown : presenter.showNextIfQueued delegateIsPresenting = some (after, events)) :
    Shows presenter after := by
  obtain ⟨rfl, rfl⟩ | shown := showNextIfQueued_cases shown
  · exact .refl _
  · exact .of_showNextDialog shown

theorem of_tryToPresent
    (tried : presenter.tryToPresent delegateIsPresenting = some (after, events)) :
    Shows presenter after := by
  obtain ⟨rfl, rfl⟩ | shown := tryToPresent_cases tried
  · exact .refl _
  · exact .of_showNextDialog shown

theorem of_setActive
    (changed : presenter.setActive active delegateIsPresenting = some (after, events)) :
    Shows presenter after := by
  obtain ⟨rfl, rfl⟩ | ⟨tried, stepped, rfl⟩ := setActive_cases changed
  · exact .refl _
  · have shows := of_tryToPresent stepped
    exact ⟨shows.dialogs, shows.presented, shows.confirmation, shows.sheet, shows.states⟩

/-- A dialog that is stopped is closed, if it is the presented one. -/
theorem of_dialogCoordinatorWasStopped
    (stopped : presenter.dialogCoordinatorWasStopped coordinator delegateIsPresenting =
      some (after, events)) :
    after = presenter ∨
      (coordinator = presenter.presentedDialogCoordinator ∧ Shows presenter.closing after) := by
  grind [dialogCoordinatorWasStopped_cases, of_showNextIfQueued]

/-- A dialog is cancelled that is not presented. -/
theorem of_cancelDialogForWebState (other : presenter.presentedDialogWebState ≠ some webState)
    (cancelled : presenter.cancelDialogForWebState webState delegateIsPresenting =
      some (after, events)) : Shows presenter after := by
  obtain ⟨presented, _⟩ | ⟨_, ⟨_, rfl, _⟩ | ⟨dialog, found, rfl, _⟩⟩ :=
    cancelDialogForWebState_cases cancelled
  · exact absurd presented other
  · exact .refl _
  · refine ⟨?_, .inr ⟨rfl, rfl⟩, rfl, rfl, rfl⟩
    grind [RefersTo]

end Shows

/-! ## All dialogs are cancelled -/

def withoutDialogs (presenter : DialogPresenter WebState) : DialogPresenter WebState :=
  { presenter with
    queuedWebStates := []
    dialogCoordinatorsForWebStates := fun _ => none
    presentedDialogWebState := none
    presentedDialogCoordinator := none
    alertOnScreen := false }

theorem Sound.cancelQueuedDialogs_eq (sound : Sound log presenter)
    (idle : presenter.presentedDialogWebState = none) {turns : Nat}
    (enough : presenter.queuedWebStates.length = turns) :
    ∃ events, presenter.cancelQueuedDialogs turns = some ({ presenter with
      queuedWebStates := []
      dialogCoordinatorsForWebStates := fun _ => none }, events) := by
  induction turns generalizing log presenter with
  | zero =>
    have empty := List.eq_nil_of_length_eq_zero enough
    have nowhere : presenter.dialogCoordinatorsForWebStates = fun _ => none := by
      funext webState
      have queued := sound.queued webState
      rw [empty] at queued
      exact Option.eq_none_iff_forall_ne_some.mpr (by grind)
    simp [DialogPresenter.cancelQueuedDialogs, ← empty, ← nowhere]
  | succ turns ih =>
    cases queue : presenter.queuedWebStates with
    | nil => simp [queue] at enough
    | cons _ _ =>
      obtain ⟨dialog, found, rfl, _⟩ := sound.waiting_cons queue
      have waits : dialog.webState ∈ presenter.queuedWebStates :=
        (sound.queued _).mpr ⟨dialog, found⟩
      have shorter : (presenter.withdrawing dialog).queuedWebStates.length = turns := by
        simp [withdrawing, waits, enough]
      obtain ⟨events, cancelled⟩ := ih (sound.withdraw found) idle shorter
      have first : presenter.cancelDialogForWebState dialog.webState false =
          some (presenter.withdrawing dialog, [.withdrawn dialog]) := by
        simp [DialogPresenter.cancelDialogForWebState, withdrawing, idle, found, waits]
      refine ⟨.withdrawn dialog :: events, ?_⟩
      unfold DialogPresenter.cancelQueuedDialogs
      rw [queue]
      change (presenter.cancelDialogForWebState dialog.webState false >>= _) = _
      rw [first]
      change ((presenter.withdrawing dialog).cancelQueuedDialogs turns >>= _) = _
      rw [cancelled]
      rfl

theorem Sound.cancelAllDialogs_eq (sound : Sound log presenter) :
    ∃ events, presenter.cancelAllDialogs = some (presenter.withoutDialogs, events) := by
  have closed : Sound (log ++ presenter.presentedDialogCoordinator.toList.map .closed)
      { presenter with
        presentedDialogWebState := none
        presentedDialogCoordinator := none
        alertOnScreen := false } := sound.close rfl rfl rfl rfl rfl
  obtain ⟨_, cancelled⟩ := closed.cancelQueuedDialogs_eq rfl rfl
  simp [DialogPresenter.cancelAllDialogs, withoutDialogs, cancelled]

/-! ## What a step does -/

/-- A dialog that is stopped leaves the presenter alone, or it is closed. -/
def Stops (presenter after : DialogPresenter WebState) : Prop :=
  after = presenter ∨ Shows presenter.closing after

/-- Every input, with all that its step can do to what the presenter refers to. -/
inductive Steps (presenter : DialogPresenter WebState) :
    DialogInput WebState → DialogPresenter WebState → Prop
  | queues {kind : DialogKind} {webState : WebState} {delegateIsPresenting : Bool}
      {after : DialogPresenter WebState} (dialog : DialogCoordinator WebState)
      (blockingStates : WebState → Bool)
      (own : dialog.blockingOption = true → blockingStates dialog.webState = true)
      (kept : ∀ other, presenter.blockingStates other = true → blockingStates other = true)
      (shows : Shows ({ presenter with
        blockingStates
        coordinatorsMade := presenter.coordinatorsMade + 1 }.queueing dialog) after) :
      Steps presenter (.runDialog kind webState delegateIsPresenting) after
  | dismisses {delegateIsPresenting : Bool} {after : DialogPresenter WebState}
      (stops : Stops { presenter with alertOnScreen := false } after) :
      Steps presenter (.tapButton delegateIsPresenting) after
  | asks (dialog : DialogCoordinator WebState)
      (presented : presenter.presentedDialogCoordinator = some dialog) :
      Steps presenter .tapBlockingOption { presenter with
        alertOnScreen := false
        blockingConfirmationCoordinator := some ⟨dialog⟩
        sheetOnScreen := true }
  | answers {sheet : BlockingConfirmation WebState} {confirm delegateIsPresenting : Bool}
      {after : DialogPresenter WebState}
      (stops : Stops { presenter with sheetOnScreen := false } after) :
      Steps presenter (.tapSheet sheet confirm delegateIsPresenting) after
  | cancels {webState : WebState} {delegateIsPresenting : Bool}
      {after : DialogPresenter WebState}
      (presented : presenter.presentedDialogWebState = some webState)
      (stops : Stops { presenter with alertOnScreen := false } after) :
      Steps presenter (.cancelDialogForWebState webState delegateIsPresenting) after
  | withdraws {webState : WebState} {delegateIsPresenting : Bool}
      {after : DialogPresenter WebState} (shows : Shows presenter after) :
      Steps presenter (.cancelDialogForWebState webState delegateIsPresenting) after
  | clears : Steps presenter .cancelAllDialogs presenter.withoutDialogs
  | activates {active delegateIsPresenting : Bool} {after : DialogPresenter WebState}
      (shows : Shows presenter after) :
      Steps presenter (.setActive active delegateIsPresenting) after
  | tries {delegateIsPresenting : Bool} {after : DialogPresenter WebState}
      (shows : Shows presenter after) :
      Steps presenter (.tryToPresent delegateIsPresenting) after

theorem stops_of_dialogCoordinatorWasStopped
    (stopped : presenter.dialogCoordinatorWasStopped coordinator delegateIsPresenting =
      some (after, events)) : Stops presenter after :=
  (Shows.of_dialogCoordinatorWasStopped stopped).imp_right And.right

theorem Sound.steps (sound : Sound log presenter)
    (stepped : presenter.step input = some (after, events)) : Steps presenter input after := by
  cases input with
  | runDialog _ _ _ =>
    obtain ⟨dialog, blockingStates, rfl, own, kept, added⟩ := runDialog_cases stepped
    obtain ⟨rfl, _⟩ | ⟨shown, stepped, _⟩ := addDialogCoordinator_cases added
    · exact .queues dialog blockingStates own kept (.refl _)
    · exact .queues dialog blockingStates own kept (.of_showNextDialog stepped)
  | tapButton _ =>
    exact .dismisses (stops_of_dialogCoordinatorWasStopped stepped)
  | tapBlockingOption =>
    obtain ⟨dialog, presented, rfl, _⟩ := tapBlockingOption_cases stepped
    exact .asks dialog presented
  | tapSheet _ _ _ =>
    obtain ⟨_, _, stopped, _⟩ := tapSheet_cases stepped
    exact .answers (stops_of_dialogCoordinatorWasStopped stopped)
  | cancelDialogForWebState webState _ =>
    by_cases other : presenter.presentedDialogWebState = some webState
    · obtain ⟨_, stopped⟩ | ⟨different, _⟩ := cancelDialogForWebState_cases stepped
      · exact .cancels other (stops_of_dialogCoordinatorWasStopped stopped)
      · exact absurd other different
    · exact .withdraws (.of_cancelDialogForWebState other stepped)
  | cancelAllDialogs =>
    obtain ⟨_, cancelled⟩ := sound.cancelAllDialogs_eq
    cases cancelled.symm.trans stepped
    exact .clears
  | setActive _ _ => exact .activates (.of_setActive stepped)
  | tryToPresent _ => exact .tries (.of_tryToPresent stepped)

/-! ## Blocking states -/

/-- A dialog with a blocking option is one of a WebState with a blocking state, and so is one
whose sheet is on the screen. -/
structure Offered (presenter : DialogPresenter WebState) : Prop where
  dialogs : ∀ dialog, presenter.RefersTo dialog → dialog.blockingOption = true →
    presenter.blockingStates dialog.webState = true
  sheets : ∀ sheet ∈ presenter.sheetsOnScreen,
    presenter.blockingStates sheet.dialog.webState = true

namespace Offered

omit [DecidableEq WebState] in
theorem shows (offered : Offered presenter) (shows : Shows presenter after) : Offered after where
  dialogs := by
    rw [shows.states]
    exact fun dialog refers => offered.dialogs dialog (shows.dialogs dialog refers)
  sheets := by
    rw [shows.states, shows.sheets]
    exact offered.sheets

omit [DecidableEq WebState] in
/-- The presenter may forget dialogs and sheets. -/
theorem of_subset (offered : Offered presenter)
    (dialogs : ∀ dialog, after.RefersTo dialog → presenter.RefersTo dialog)
    (sheets : after.sheetsOnScreen ⊆ presenter.sheetsOnScreen)
    (states : after.blockingStates = presenter.blockingStates) : Offered after where
  dialogs := by
    rw [states]
    grind [offered.dialogs]
  sheets := by
    rw [states]
    exact fun sheet onScreen => offered.sheets sheet (sheets onScreen)

omit [DecidableEq WebState] in
theorem closing (offered : Offered presenter) : Offered presenter.closing := by
  refine offered.of_subset (fun _ refers => refers.imp_right nofun) ?_ rfl
  rw [sheetsOnScreen_closing]
  exact List.nil_subset _

omit [DecidableEq WebState] in
theorem stops (offered : Offered presenter) (stops : Stops presenter after) : Offered after := by
  rcases stops with rfl | shows <;> grind [shows, offered.closing.shows]

omit [DecidableEq WebState] in
theorem dismissed (offered : Offered presenter) :
    Offered { presenter with alertOnScreen := false } :=
  offered.of_subset (fun _ => id) (List.Subset.refl _) rfl

theorem queueing (offered : Offered presenter) {dialog : DialogCoordinator WebState}
    {blockingStates : WebState → Bool}
    (own : dialog.blockingOption = true → blockingStates dialog.webState = true)
    (kept : ∀ other, presenter.blockingStates other = true → blockingStates other = true) :
    Offered ({ presenter with
      blockingStates
      coordinatorsMade := presenter.coordinatorsMade + 1 }.queueing dialog) := by
  constructor
  · rintro other (⟨webState, found⟩ | presented)
    · by_cases same : webState = dialog.webState
      · subst same
        simp only [DialogPresenter.queueing, Function.update_self] at found
        cases found
        exact own
      · simp only [DialogPresenter.queueing, Function.update_of_ne same] at found
        exact fun option => kept _ (offered.dialogs other (.inl ⟨webState, found⟩) option)
    · exact fun option => kept _ (offered.dialogs other (.inr presented) option)
  · exact fun sheet onScreen => kept _ (offered.sheets sheet onScreen)

theorem step (offered : Offered presenter) (sound : Sound log presenter)
    (canHappen : presenter.CanHappen input)
    (stepped : presenter.step input = some (after, events)) : Offered after := by
  cases sound.steps stepped with
  | queues _ _ own kept shows => exact (offered.queueing own kept).shows shows
  | dismisses stops | cancels presented stops => exact offered.dismissed.stops stops
  | asks dialog presented =>
    have option : dialog.blockingOption = true := by
      have any := canHappen.2
      rw [presented] at any
      exact any
    refine ⟨offered.dialogs, ?_⟩
    intro sheet onScreen
    obtain rfl := List.mem_singleton.mp onScreen
    exact offered.dialogs dialog (.inr presented) option
  | answers stops =>
    have answered : Offered { presenter with sheetOnScreen := false } :=
      offered.of_subset (fun _ => id) (List.nil_subset _) rfl
    exact answered.stops stops
  | withdraws shows | activates shows | tries shows => exact offered.shows shows
  | clears =>
    exact offered.of_subset (fun _ refers => refers.elim nofun nofun) (List.Subset.refl _) rfl

end Offered

/-- In every run of what can happen. -/
theorem run_soundAndOffered
    (run : Runs step CanHappen ({} : DialogPresenter WebState) log presenter) :
    Sound log presenter ∧ Offered presenter := by
  refine run.invariant_outputs (fun log presenter => Sound log presenter ∧ Offered presenter) ?_ ?_
  · exact ⟨.fresh, ⟨fun _ refers => refers.elim nofun nofun, nofun⟩⟩
  · rintro log presenter after input events _ ⟨sound, offered⟩ canHappen stepped
    exact ⟨sound.step canHappen stepped, offered.step sound canHappen stepped⟩

end ChromiumIos.DialogPresenter
