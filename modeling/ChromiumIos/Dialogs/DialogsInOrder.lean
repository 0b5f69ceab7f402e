import ChromiumIos.Dialogs.DialogQueue

/-!
# Dialogs are shown in order

Dialogs are shown in the order in which they were requested, one at a time and only while the
presenter is active, and a sheet is recorded only for the presented dialog.  The mode of the
presenter may change while a sheet is recorded; when the dialog of the sheet is then stopped,
the next dialog is shown without a look at the mode, and an assertion fails.  Cancelling all
dialogs leaves the recorded sheet behind, and the presenter never tries to present again.
-/

namespace ChromiumIos.DialogPresenter

open Lib

variable {WebState : Type} [DecidableEq WebState]

structure InOrder (log : List (DialogEvent WebState)) (presenter : DialogPresenter WebState) :
    Prop where
  nodup : presenter.queuedWebStates.Nodup
  queued : ∀ webState, webState ∈ presenter.queuedWebStates ↔
    presenter.dialogCoordinatorsForWebStates webState ≠ none
  presented :
    presenter.presentedDialogWebState ≠ none ↔ presenter.presentedDialogCoordinator ≠ none
  notQueued : ∀ webState, presenter.presentedDialogWebState = some webState →
    webState ∉ presenter.queuedWebStates
  /-- Every dialog that was shown was the first of those that waited. -/
  replays : QueueEvent.replay [] (queueEvents log) = some presenter.waiting
  oneAtATime : (stage log).oneAtATime = true
  confirming : ∀ sheet, presenter.blockingConfirmationCoordinator = some sheet →
    presenter.presentedDialogCoordinator = some sheet.dialog

variable {delegateIsPresenting : Bool} {input : DialogInput WebState}
  (presenter : DialogPresenter WebState)

/-- The sheet of the presented dialog may be tapped, and the mode changes only while no dialog
is presented or a sheet is recorded. -/
def Admits : DialogInput WebState → Prop
  | .tapSheet sheet _ _ => sheet ∈ presenter.sheetsOnScreen ∧
      presenter.presentedDialogCoordinator = some sheet.dialog
  | .setActive active _ => presenter.active = active ∨
      presenter.blockingConfirmationCoordinator ≠ none ∨
      presenter.presentedDialogCoordinator = none
  | .tryToPresent _ => presenter.blockingConfirmationCoordinator ≠ none ∨
      presenter.presentedDialogCoordinator = none
  | input => presenter.CanHappen input

def ActiveForNext (delegateIsPresenting : Bool) : Prop :=
  presenter.queuedWebStates ≠ [] → delegateIsPresenting = false → presenter.active = true
deriving Decidable

/-- The presenter is active when the presented dialog is stopped and another one is next, and
no sheet is recorded when all dialogs are cancelled. -/
def StopsSafely : DialogInput WebState → Prop
  | .tapButton delegateIsPresenting => presenter.ActiveForNext delegateIsPresenting
  | .tapSheet _ _ delegateIsPresenting => presenter.ActiveForNext delegateIsPresenting
  | .cancelDialogForWebState webState delegateIsPresenting =>
    presenter.presentedDialogWebState = some webState →
      presenter.ActiveForNext delegateIsPresenting
  | .cancelAllDialogs => presenter.blockingConfirmationCoordinator = none
  | _ => True

/-- A presenter in the same mode that has not been asked for a dialog. -/
def fresh : DialogPresenter WebState where
  active := presenter.active
  sheetOnScreen := presenter.sheetOnScreen
  blockingStates := presenter.blockingStates
  coordinatorsMade := presenter.coordinatorsMade

variable {log : List (DialogEvent WebState)} {events : List (DialogEvent WebState)}
variable {presenter after : DialogPresenter WebState}

omit [DecidableEq WebState] in
theorem Admits.canHappen (admits : presenter.Admits input) : presenter.CanHappen input := by
  cases input with
  | tapSheet _ _ _ => exact admits.1
  | setActive active delegateIsPresenting | tryToPresent delegateIsPresenting
  | cancelDialogForWebState webState delegateIsPresenting | cancelAllDialogs => trivial
  | runDialog kind webState delegateIsPresenting | tapButton delegateIsPresenting
  | tapBlockingOption => exact admits

/-! ## Sheets -/

def Confirms (presenter : DialogPresenter WebState) : Prop :=
  ∀ sheet, presenter.blockingConfirmationCoordinator = some sheet →
    presenter.presentedDialogCoordinator = some sheet.dialog

namespace Confirms

omit [DecidableEq WebState] in
theorem shows (confirms : Confirms presenter) (shows : Shows presenter after) :
    Confirms after := by
  grind [Confirms, shows.confirmation, shows.presented]

omit [DecidableEq WebState] in
theorem stops (confirms : Confirms presenter) (stops : Stops presenter after) :
    Confirms after := by
  rcases stops with rfl | shows
  · exact confirms
  · have closed : Confirms presenter.closing := nofun
    exact closed.shows shows

theorem step (confirms : Confirms presenter) (sound : Sound log presenter)
    (safely : presenter.StopsSafely input) (stepped : presenter.step input = some (after, events)) :
    Confirms after := by
  have dismissed : Confirms { presenter with alertOnScreen := false } := confirms
  cases sound.steps stepped with
  | queues dialog blockingStates _ _ shows =>
    have queueing : Confirms ({ presenter with
        blockingStates
        coordinatorsMade := presenter.coordinatorsMade + 1 }.queueing dialog) := confirms
    exact queueing.shows shows
  | dismisses stops | cancels presented stops => exact dismissed.stops stops
  | asks _ presented =>
    rintro _ ⟨⟩
    exact presented
  | answers stops =>
    have answered : Confirms { presenter with sheetOnScreen := false } := confirms
    exact answered.stops stops
  | withdraws shows | activates shows | tries shows => exact confirms.shows shows
  | clears =>
    intro sheet recorded
    cases (show presenter.blockingConfirmationCoordinator = none from safely).symm.trans recorded

end Confirms

variable (sound : Sound log presenter)
include sound

theorem Sound.inOrder (confirms : Confirms presenter) : InOrder log presenter where
  nodup := sound.nodup
  queued := by
    simp [sound.queued, Option.ne_none_iff_exists']
  presented := by
    simp [sound.presented]
  notQueued := by
    intro webState isPresented
    rw [sound.presented] at isPresented
    obtain ⟨dialog, presented, rfl⟩ := Option.map_eq_some_iff.mp isPresented
    exact sound.notQueued dialog presented
  replays := sound.replays
  oneAtATime := sound.oneAtATime
  confirming := confirms

/-! ## Steps that return -/

theorem Sound.showNextDialog_returns (isActive : presenter.active = true)
    (idle : presenter.presentedDialogCoordinator = none) (waits : presenter.queuedWebStates ≠ []) :
    ∃ after events, presenter.showNextDialog = some (after, events) := by
  obtain ⟨_, rest, queue⟩ := List.exists_cons_of_ne_nil waits
  obtain ⟨dialog, found, rfl, _⟩ := sound.waiting_cons queue
  exact ⟨_, _, sound.showNextDialog_eq_some.mpr
    ⟨isActive, idle, dialog, rest, queue, found, rfl, rfl⟩⟩

theorem Sound.showNextIfQueued_returns (idle : presenter.presentedDialogCoordinator = none)
    (activeForNext : presenter.ActiveForNext delegateIsPresenting) :
    ∃ after events, presenter.showNextIfQueued delegateIsPresenting = some (after, events) := by
  unfold DialogPresenter.showNextIfQueued
  split
  · next waits =>
      exact sound.showNextDialog_returns (activeForNext waits.1 waits.2) idle waits.1
  · exact ⟨_, _, rfl⟩

omit sound

theorem ActiveForNext.of_showNextIfQueued
    (shown : presenter.showNextIfQueued delegateIsPresenting = some (after, events)) :
    presenter.ActiveForNext delegateIsPresenting := by
  intro waits delegateIsIdle
  unfold DialogPresenter.showNextIfQueued at shown
  rw [if_pos ⟨waits, delegateIsIdle⟩] at shown
  exact (dcheck_then shown).1

include sound

/-- The presented dialog can be stopped exactly if the presenter may show the next one. -/
theorem Sound.stopPresented_returns_iff (delegateIsPresenting : Bool) :
    (∃ after events, presenter.dialogCoordinatorWasStopped presenter.presentedDialogCoordinator
        delegateIsPresenting = some (after, events)) ↔
      presenter.ActiveForNext delegateIsPresenting := by
  constructor
  · rintro ⟨after, events, stopped⟩
    obtain ⟨other, _⟩ | ⟨_, shown, stepped, _⟩ := dialogCoordinatorWasStopped_cases stopped
    · exact absurd rfl other
    · have closed : presenter.closing.ActiveForNext delegateIsPresenting :=
        .of_showNextIfQueued stepped
      exact closed
  · intro activeForNext
    have closed : Sound (log ++ presenter.presentedDialogCoordinator.toList.map .closed)
        presenter.closing := sound.close rfl rfl rfl rfl rfl
    obtain ⟨after, shown, stepped⟩ := closed.showNextIfQueued_returns rfl activeForNext
    refine ⟨after, presenter.presentedDialogCoordinator.toList.map .closed ++ shown, ?_⟩
    unfold DialogPresenter.dialogCoordinatorWasStopped
    rw [if_neg (not_not.mpr rfl)]
    change (presenter.closing.showNextIfQueued delegateIsPresenting >>= _) = _
    rw [stepped]
    rfl

theorem Sound.addDialogCoordinator_eq (dialog : DialogCoordinator WebState)
    (delegateIsPresenting : Bool) (absent : dialog.webState ∉ presenter.queuedWebStates)
    (idle : presenter.presentedDialogWebState ≠ some dialog.webState) :
    presenter.addDialogCoordinator dialog dialog.webState delegateIsPresenting =
      if presenter.active = true ∧ presenter.presentedDialogCoordinator.isSome = false ∧
          delegateIsPresenting = false then
        (presenter.queueing dialog).showNextDialog.map fun shown =>
          (shown.1, .requested dialog :: shown.2)
      else
        some (presenter.queueing dialog, [.requested dialog]) := by
  have requested := sound.request absent idle
  have nowhere : presenter.dialogCoordinatorsForWebStates dialog.webState = none :=
    Option.eq_none_iff_forall_ne_some.mpr fun other found =>
      absent ((sound.queued _).mpr ⟨other, found⟩)
  unfold DialogPresenter.addDialogCoordinator
  rw [dcheck_of idle, dcheck_of nowhere]
  change ((presenter.queueing dialog).isShowingDialog >>= _) = _
  rw [requested.isShowingDialog_eq]
  rw [Option.map_eq_bind]
  rfl

theorem Sound.addDialogCoordinator_returns (dialog : DialogCoordinator WebState)
    (delegateIsPresenting : Bool) (absent : dialog.webState ∉ presenter.queuedWebStates)
    (idle : presenter.presentedDialogWebState ≠ some dialog.webState) :
    ∃ after events, presenter.addDialogCoordinator dialog dialog.webState delegateIsPresenting =
      some (after, events) := by
  rw [sound.addDialogCoordinator_eq dialog delegateIsPresenting absent idle]
  split
  · next shows =>
      have waits : (presenter.queueing dialog).queuedWebStates ≠ [] := by
        simp [DialogPresenter.queueing]
      obtain ⟨_, _, stepped⟩ := (sound.request absent idle).showNextDialog_returns shows.1
        (Option.isNone_iff_eq_none.mp (Option.isSome_eq_false_iff.mp shows.2.1)) waits
      simp [stepped]
  · exact ⟨_, _, rfl⟩

/-- A dialog that is requested of an idle presenter does not wait for others. -/
theorem Sound.addDialogCoordinator_idle (dialog : DialogCoordinator WebState)
    (delegateIsPresenting : Bool) (alone : presenter.queuedWebStates = [])
    (idle : presenter.presentedDialogCoordinator = none) :
    ∃ after, presenter.addDialogCoordinator dialog dialog.webState delegateIsPresenting =
      some (after, .requested dialog ::
        if presenter.active = true ∧ delegateIsPresenting = false then [.shown dialog]
        else []) := by
  have absent : dialog.webState ∉ presenter.queuedWebStates := by
    rw [alone]
    exact List.not_mem_nil
  have noWebState : presenter.presentedDialogWebState ≠ some dialog.webState := by
    rw [sound.presented, idle]
    nofun
  rw [sound.addDialogCoordinator_eq dialog delegateIsPresenting absent noWebState, idle]
  by_cases shows : presenter.active = true ∧ delegateIsPresenting = false
  · have first : (presenter.queueing dialog).showNextDialog =
        some ((presenter.queueing dialog).showing dialog [], [.shown dialog]) := by
      refine (sound.request absent noWebState).showNextDialog_eq_some.mpr
        ⟨shows.1, idle, dialog, [], ?_, ?_, rfl, rfl⟩
      · simp [queueing, alone]
      · exact Function.update_self ..
    rw [if_pos ⟨shows.1, rfl, shows.2⟩, if_pos shows, first]
    exact ⟨_, rfl⟩
  · simp [shows]

theorem Sound.runDialog_returns (kind : DialogKind) {webState : WebState}
    (delegateIsPresenting : Bool) (absent : webState ∉ presenter.queuedWebStates)
    (idle : presenter.presentedDialogWebState ≠ some webState) :
    ∃ after events, presenter.runDialog kind webState delegateIsPresenting =
      some (after, events) := by
  cases kind with
  | javaScript showBlockingOption =>
    have known : Sound log { presenter with
        blockingStates := Function.update presenter.blockingStates webState true
        coordinatorsMade := presenter.coordinatorsMade + 1 } :=
      sound.of_same rfl rfl rfl rfl rfl
    exact known.addDialogCoordinator_returns
      ⟨presenter.coordinatorsMade, webState, showBlockingOption⟩ delegateIsPresenting absent idle
  | auth =>
    have numbered : Sound log
        { presenter with coordinatorsMade := presenter.coordinatorsMade + 1 } :=
      sound.of_same rfl rfl rfl rfl rfl
    exact numbered.addDialogCoordinator_returns ⟨presenter.coordinatorsMade, webState, false⟩
      delegateIsPresenting absent idle

theorem Sound.cancelDialogForWebState_returns_iff (webState : WebState)
    (delegateIsPresenting : Bool) :
    (∃ after events, presenter.cancelDialogForWebState webState delegateIsPresenting =
        some (after, events)) ↔
      (presenter.presentedDialogWebState = some webState →
        presenter.ActiveForNext delegateIsPresenting) := by
  by_cases presented : presenter.presentedDialogWebState = some webState
  · have stoppedIff := sound.dismissed.stopPresented_returns_iff delegateIsPresenting
    obtain ⟨dialog, coordinator, rfl⟩ := Option.map_eq_some_iff.mp (sound.presented ▸ presented)
    have nowhere : presenter.dialogCoordinatorsForWebStates dialog.webState = none :=
      Option.eq_none_iff_forall_ne_some.mpr fun other found =>
        sound.notQueued dialog coordinator ((sound.queued _).mpr ⟨other, found⟩)
    have isSome : presenter.presentedDialogCoordinator.isSome = true := by
      rw [coordinator]
      rfl
    unfold DialogPresenter.cancelDialogForWebState
    rw [if_pos presented, dcheck_of isSome, dcheck_of nowhere]
    rw [forall_prop_of_true presented]
    exact stoppedIff
  · refine ⟨fun _ isPresented => absurd isPresented presented, fun _ => ?_⟩
    unfold DialogPresenter.cancelDialogForWebState
    rw [if_neg presented]
    split
    · exact ⟨_, _, rfl⟩
    · next dialog found =>
        simp [dcheck_of ((sound.queued _).mpr ⟨dialog, found⟩)]

theorem Sound.tryToPresent_returns (delegateIsPresenting : Bool)
    (admits : presenter.blockingConfirmationCoordinator ≠ none ∨
      presenter.presentedDialogCoordinator = none) :
    ∃ after events, presenter.tryToPresent delegateIsPresenting = some (after, events) := by
  unfold DialogPresenter.tryToPresent
  split
  · exact ⟨_, _, rfl⟩
  · next noSheet =>
      have idle : presenter.presentedDialogCoordinator = none := by
        rcases admits with recorded | idle
        · exact absurd (Option.isSome_iff_ne_none.mpr recorded) noSheet
        · exact idle
      rw [sound.isShowingDialog_eq, idle]
      split
      · next isActive => exact sound.showNextIfQueued_returns idle fun _ _ => isActive
      · exact ⟨_, _, rfl⟩

theorem Sound.tapSheet_returns_iff (offered : Offered presenter)
    {sheet : BlockingConfirmation WebState} (confirm delegateIsPresenting : Bool)
    (onScreen : sheet ∈ presenter.sheetsOnScreen)
    (own : presenter.presentedDialogCoordinator = some sheet.dialog) :
    (∃ after events, presenter.tapSheet sheet confirm delegateIsPresenting =
        some (after, events)) ↔ presenter.ActiveForNext delegateIsPresenting := by
  have tapped : Sound log { presenter with sheetOnScreen := false } :=
    sound.of_same rfl rfl rfl rfl rfl
  have stops := tapped.stopPresented_returns_iff delegateIsPresenting
  have alive : presenter.weakCoordinator sheet.dialog = presenter.presentedDialogCoordinator := by
    simp [weakCoordinator, own]
  constructor
  · rintro ⟨after, events, returned⟩
    obtain ⟨_, stopped, stepped, _⟩ := tapSheet_cases returned
    rw [alive] at stepped
    exact stops.mp ⟨after, stopped, stepped⟩
  · intro activeForNext
    obtain ⟨after, stopped, stepped⟩ := stops.mpr activeForNext
    have isPresented : presenter.presentedDialogWebState = some sheet.dialog.webState := by
      rw [sound.presented, own]
      rfl
    have selected := selectBlockingOption_of_presented isPresented (offered.sheets sheet onScreen)
    cases confirm with
    | false =>
      refine ⟨after, [] ++ stopped, ?_⟩
      change (DialogPresenter.dialogCoordinatorWasStopped
        (presenter.weakCoordinator sheet.dialog) _ _ >>= _) = _
      simp [alive, stepped]
    | true =>
      refine ⟨after, [.blockingOptionSelected sheet.dialog.webState] ++ stopped, ?_⟩
      change (presenter.selectBlockingOption >>= _) = _
      rw [selected]
      change (DialogPresenter.dialogCoordinatorWasStopped
        (presenter.weakCoordinator sheet.dialog) _ _ >>= _) = _
      simp [alive, stepped]

/-- The next state is in order exactly if dialogs are stopped safely. -/
theorem Sound.step_inOrder_iff (offered : Offered presenter) (confirms : Confirms presenter)
    (admits : presenter.Admits input) :
    (∃ after events, presenter.step input = some (after, events) ∧
        InOrder (log ++ events) after) ↔ presenter.StopsSafely input := by
  constructor
  · rintro ⟨after, events, stepped, ordered⟩
    cases input with
    | runDialog kind webState delegateIsPresenting | tapBlockingOption
    | setActive active delegateIsPresenting | tryToPresent delegateIsPresenting => trivial
    | tapButton delegateIsPresenting =>
      exact (sound.dismissed.stopPresented_returns_iff delegateIsPresenting).mp
        ⟨after, events, stepped⟩
    | tapSheet _ confirm delegateIsPresenting =>
      exact (sound.tapSheet_returns_iff offered confirm delegateIsPresenting admits.1
        admits.2).mp ⟨after, events, stepped⟩
    | cancelDialogForWebState webState delegateIsPresenting =>
      exact (sound.cancelDialogForWebState_returns_iff webState delegateIsPresenting).mp
        ⟨after, events, stepped⟩
    | cancelAllDialogs =>
      obtain ⟨_, cancelled⟩ := sound.cancelAllDialogs_eq
      cases cancelled.symm.trans stepped
      exact Option.eq_none_iff_forall_ne_some.mpr fun sheet recorded =>
        nomatch ordered.confirming sheet recorded
  · intro safely
    have returns : ∃ after events, presenter.step input = some (after, events) := by
      cases input with
      | runDialog kind _ delegateIsPresenting =>
        exact sound.runDialog_returns kind delegateIsPresenting admits.1 admits.2
      | tapButton delegateIsPresenting =>
        exact (sound.dismissed.stopPresented_returns_iff delegateIsPresenting).mpr safely
      | tapBlockingOption =>
        have option := admits.2
        cases presented : presenter.presentedDialogCoordinator with
        | none =>
          simp [presented] at option
        | some _ =>
          change ∃ after events, (presenter.presentedDialogCoordinator >>= _) =
            some (after, events)
          simp [presented]
      | tapSheet _ confirm delegateIsPresenting =>
        exact (sound.tapSheet_returns_iff offered confirm delegateIsPresenting admits.1
          admits.2).mpr safely
      | cancelDialogForWebState webState delegateIsPresenting =>
        exact (sound.cancelDialogForWebState_returns_iff webState delegateIsPresenting).mpr safely
      | cancelAllDialogs =>
        obtain ⟨events, cancelled⟩ := sound.cancelAllDialogs_eq
        exact ⟨_, events, cancelled⟩
      | setActive active delegateIsPresenting =>
        change ∃ after events, presenter.setActive active delegateIsPresenting =
          some (after, events)
        unfold DialogPresenter.setActive
        split
        · next changes =>
            obtain ⟨after, _, stepped⟩ := (sound.activate active).tryToPresent_returns
              delegateIsPresenting (admits.resolve_left changes)
            simp [stepped]
        · exact ⟨_, _, rfl⟩
      | tryToPresent delegateIsPresenting =>
        exact sound.tryToPresent_returns delegateIsPresenting admits
    obtain ⟨after, events, stepped⟩ := returns
    exact ⟨after, events, stepped,
      (sound.step admits.canHappen stepped).inOrder (confirms.step sound safely stepped)⟩

omit sound

/-! ## Runs -/

omit [DecidableEq WebState] in
theorem withoutDialogs_eq_fresh
    (noSheet : presenter.blockingConfirmationCoordinator = none) :
    presenter.withoutDialogs = presenter.fresh := by
  unfold withoutDialogs fresh
  rw [noSheet]

theorem fresh_runDialog (presenter : DialogPresenter WebState) (kind : DialogKind)
    (webState : WebState) (delegateIsPresenting : Bool) :
    ∃ dialog after, dialog.webState = webState ∧
      presenter.fresh.step (.runDialog kind webState delegateIsPresenting) =
        some (after, .requested dialog ::
          if presenter.active = true ∧ delegateIsPresenting = false then [.shown dialog]
          else []) := by
  have idle := (Sound.fresh : Sound [] ({} : DialogPresenter WebState)).activate presenter.active
  cases kind with
  | javaScript showBlockingOption =>
    have known : Sound ([] ++ [.activeChanged presenter.active]) { presenter.fresh with
        blockingStates := Function.update presenter.blockingStates webState true
        coordinatorsMade := presenter.coordinatorsMade + 1 } :=
      idle.of_same rfl rfl rfl rfl rfl
    obtain ⟨after, added⟩ := known.addDialogCoordinator_idle
      ⟨presenter.coordinatorsMade, webState, showBlockingOption⟩ delegateIsPresenting rfl rfl
    exact ⟨_, after, rfl, added⟩
  | auth =>
    have numbered : Sound ([] ++ [.activeChanged presenter.active])
        { presenter.fresh with coordinatorsMade := presenter.coordinatorsMade + 1 } :=
      idle.of_same rfl rfl rfl rfl rfl
    obtain ⟨after, added⟩ := numbered.addDialogCoordinator_idle
      ⟨presenter.coordinatorsMade, webState, false⟩ delegateIsPresenting rfl rfl
    exact ⟨_, after, rfl, added⟩

/-- Before every step the next state is in order exactly if dialogs are stopped safely.  After
all dialogs were cancelled safely, the presenter is as good as new. -/
theorem run_inOrder
    (run : Runs step (fun presenter input => presenter.Admits input ∧ presenter.StopsSafely input)
      ({} : DialogPresenter WebState) log presenter) :
    InOrder log presenter ∧
      (∀ input, presenter.Admits input →
        ((∃ after events, presenter.step input = some (after, events) ∧
          InOrder (log ++ events) after) ↔ presenter.StopsSafely input)) ∧
      (presenter.blockingConfirmationCoordinator = none →
        ∃ events, presenter.step .cancelAllDialogs = some (presenter.fresh, events)) ∧
      ∀ kind webState delegateIsPresenting, ∃ dialog after, dialog.webState = webState ∧
        presenter.fresh.step (.runDialog kind webState delegateIsPresenting) =
          some (after, .requested dialog ::
            if presenter.active = true ∧ delegateIsPresenting = false then [.shown dialog]
            else []) := by
  obtain ⟨sound, offered⟩ := run_soundAndOffered (run.mono fun accepted => accepted.1.canHappen)
  have confirms : Confirms presenter := by
    refine run.invariant_outputs (fun _ => Confirms) nofun ?_
    rintro log presenter after input events before confirms ⟨_, safely⟩ stepped
    obtain ⟨sound, _⟩ := run_soundAndOffered (before.mono fun accepted => accepted.1.canHappen)
    exact confirms.step sound safely stepped
  refine ⟨sound.inOrder confirms,
    fun input admits => sound.step_inOrder_iff offered confirms admits, ?_,
    presenter.fresh_runDialog⟩
  intro noSheet
  obtain ⟨_, cancelled⟩ := sound.cancelAllDialogs_eq
  simp [step, withoutDialogs_eq_fresh noSheet, cancelled]

instance (presenter : DialogPresenter WebState) : ∀ input, Decidable (presenter.Admits input)
  | .tapSheet _ _ _ => inferInstanceAs (Decidable (_ ∧ _))
  | .setActive _ _ => inferInstanceAs (Decidable (_ ∨ _ ∨ _))
  | .tryToPresent _ => inferInstanceAs (Decidable (_ ∨ _))
  | .runDialog kind webState delegateIsPresenting =>
    inferInstanceAs
      (Decidable (CanHappen presenter (.runDialog kind webState delegateIsPresenting)))
  | .tapButton delegateIsPresenting =>
    inferInstanceAs (Decidable (CanHappen presenter (.tapButton delegateIsPresenting)))
  | .tapBlockingOption => inferInstanceAs (Decidable (CanHappen presenter .tapBlockingOption))
  | .cancelDialogForWebState _ _ | .cancelAllDialogs => isTrue trivial

instance (presenter : DialogPresenter WebState) :
    ∀ input, Decidable (presenter.StopsSafely input)
  | .tapButton delegateIsPresenting =>
    inferInstanceAs (Decidable (presenter.ActiveForNext delegateIsPresenting))
  | .tapSheet _ _ delegateIsPresenting =>
    inferInstanceAs (Decidable (presenter.ActiveForNext delegateIsPresenting))
  | .cancelDialogForWebState webState delegateIsPresenting =>
    inferInstanceAs (Decidable (presenter.presentedDialogWebState = some webState →
      presenter.ActiveForNext delegateIsPresenting))
  | .cancelAllDialogs =>
    inferInstanceAs (Decidable (presenter.blockingConfirmationCoordinator = none))
  | .runDialog _ _ _ | .tapBlockingOption | .setActive _ _ | .tryToPresent _ => isTrue trivial

/-- The sheet is tapped, and the second dialog is shown. -/
theorem run_inOrder_sheetTapped :
    ∃ (log : List (DialogEvent Nat)) (presenter : DialogPresenter Nat), InOrder log presenter ∧
      presenter.presentedDialogWebState = some 2 ∧ presenter.queuedWebStates = [] := by
  have idle : Runs step (fun presenter input => presenter.Admits input ∧
    presenter.StopsSafely input) ({} : DialogPresenter Nat) [] {} := .start
  exact ⟨_, _, (run_inOrder (idle.replay
    (firstOffersOption ++ [.tapSheet ⟨⟨0, 1, true⟩⟩ true false])
    (Option.eq_some_of_isSome (by decide +kernel)))).1, by decide +kernel, by decide +kernel⟩

/-- The presenter becomes inactive while the sheet is shown, which is then tapped; and all
dialogs are cancelled while it is shown. -/
theorem run_outOfOrder :
    (∃ (log : List (DialogEvent Nat)) (presenter : DialogPresenter Nat) (input : DialogInput Nat),
      Runs step Admits {} log presenter ∧ presenter.Admits input ∧ presenter.step input = none) ∧
    ∃ (log : List (DialogEvent Nat)) (presenter : DialogPresenter Nat),
      Runs step Admits {} log presenter ∧ ¬ InOrder log presenter := by
  have idle : Runs step Admits ({} : DialogPresenter Nat) [] {} := .start
  constructor
  · exact ⟨_, _, .tapSheet ⟨⟨0, 1, true⟩⟩ false false,
      idle.replay (firstOffersOption ++ [.setActive false false])
        (Option.eq_some_of_isSome (by decide +kernel)), by decide +kernel,
      Option.isNone_iff_eq_none.mp (by decide +kernel)⟩
  · refine ⟨_, _, idle.replay (firstOffersOption ++ [.cancelAllDialogs])
      (Option.eq_some_of_isSome (by decide +kernel)), fun ordered => ?_⟩
    have confirming := ordered.confirming ⟨⟨0, 1, true⟩⟩ (by decide +kernel)
    revert confirming
    decide +kernel

end ChromiumIos.DialogPresenter
