import ChromiumIos.Lib.Runs

/-!
# The presenter of dialogs

Dialogs of WebStates are queued and shown one after the other by alert coordinators.  A
JavaScript dialog may offer to block further ones; the button for it is confirmed in a sheet
that takes the place of the dialog.  The presenter keeps a queue, a map from the WebStates in
it to their coordinators, the dialog that is presented and the sheet that is shown for it.

What is on the screen is part of the state: the alert of the presented dialog, and the sheet of
the confirmation coordinator, which is dismissed when the presenter lets go of the coordinator.
The completion handlers of the dialogs are left out, and so is a view that is in no window.
-/

namespace ChromiumIos

open Lib

/-- The coordinator of a dialog; coordinators are numbered as they are made. -/
structure DialogCoordinator (WebState : Type) where
  number : Nat
  webState : WebState
  /-- Whether it has a button to block further dialogs. -/
  blockingOption : Bool
deriving DecidableEq

/-- The coordinator of a sheet, with the dialog whose blocking option it confirms. -/
structure BlockingConfirmation (WebState : Type) where
  dialog : DialogCoordinator WebState
deriving DecidableEq

inductive DialogKind where
  | javaScript (showBlockingOption : Bool)
  | auth
deriving DecidableEq

structure DialogPresenter (WebState : Type) where
  active : Bool := false
  queuedWebStates : List WebState := []
  dialogCoordinatorsForWebStates : WebState → Option (DialogCoordinator WebState) := fun _ => none
  presentedDialogWebState : Option WebState := none
  presentedDialogCoordinator : Option (DialogCoordinator WebState) := none
  blockingConfirmationCoordinator : Option (BlockingConfirmation WebState) := none
  /-- Whether the alert of the presented dialog is on the screen. -/
  alertOnScreen : Bool := false
  /-- Whether the sheet of the confirmation coordinator is on the screen. -/
  sheetOnScreen : Bool := false
  /-- The WebStates that have a `JavaScriptDialogBlockingState`. -/
  blockingStates : WebState → Bool := fun _ => false
  coordinatorsMade : Nat := 0

inductive DialogEvent (WebState : Type) where
  | requested (dialog : DialogCoordinator WebState)
  /-- The dialog was cancelled while it was in the queue. -/
  | withdrawn (dialog : DialogCoordinator WebState)
  | shown (dialog : DialogCoordinator WebState)
  /-- The dialog is not presented any more. -/
  | closed (dialog : DialogCoordinator WebState)
  | activeChanged (active : Bool)
  | blockingOptionSelected (webState : WebState)
deriving DecidableEq

/-- The calls of the presenter and the taps of the user.  Where the code asks the delegate
whether it is presenting, the answer comes with the input. -/
inductive DialogInput (WebState : Type) where
  | runDialog (kind : DialogKind) (webState : WebState) (delegateIsPresenting : Bool)
  | tapButton (delegateIsPresenting : Bool)
  | tapBlockingOption
  | tapSheet (sheet : BlockingConfirmation WebState) (confirm delegateIsPresenting : Bool)
  | cancelDialogForWebState (webState : WebState) (delegateIsPresenting : Bool)
  | cancelAllDialogs
  | setActive (active delegateIsPresenting : Bool)
  | tryToPresent (delegateIsPresenting : Bool)

namespace DialogPresenter

variable {WebState : Type} [DecidableEq WebState]

abbrev Presented (WebState : Type) := DialogPresenter WebState × List (DialogEvent WebState)

def sheetsOnScreen (presenter : DialogPresenter WebState) : List (BlockingConfirmation WebState) :=
  if presenter.sheetOnScreen then presenter.blockingConfirmationCoordinator.toList else []

omit [DecidableEq WebState] in
def isShowingDialog (presenter : DialogPresenter WebState) : Checked Bool := do
  dcheck (presenter.presentedDialogWebState.isSome = presenter.presentedDialogCoordinator.isSome)
  return presenter.presentedDialogCoordinator.isSome

def showNextDialog (presenter : DialogPresenter WebState) : Checked (Presented WebState) := do
  dcheck (presenter.active = true)
  let showingDialog ← presenter.isShowingDialog
  dcheck (showingDialog = false)
  match presenter.queuedWebStates with
  | [] => none
  | webState :: queuedWebStates =>
    let coordinator := presenter.dialogCoordinatorsForWebStates webState
    return ({ presenter with
      queuedWebStates
      presentedDialogWebState := some webState
      presentedDialogCoordinator := coordinator
      dialogCoordinatorsForWebStates :=
        Function.update presenter.dialogCoordinatorsForWebStates webState none
      alertOnScreen := coordinator.isSome }, coordinator.toList.map .shown)

def showNextIfQueued (delegateIsPresenting : Bool) (presenter : DialogPresenter WebState) :
    Checked (Presented WebState) :=
  if presenter.queuedWebStates ≠ [] ∧ delegateIsPresenting = false then
    presenter.showNextDialog
  else
    return (presenter, [])

def dialogCoordinatorWasStopped (coordinator : Option (DialogCoordinator WebState))
    (delegateIsPresenting : Bool) (presenter : DialogPresenter WebState) :
    Checked (Presented WebState) := do
  if coordinator ≠ presenter.presentedDialogCoordinator then
    return (presenter, [])
  else
    let (after, events) ← showNextIfQueued delegateIsPresenting { presenter with
      presentedDialogWebState := none
      presentedDialogCoordinator := none
      blockingConfirmationCoordinator := none }
    return (after, presenter.presentedDialogCoordinator.toList.map .closed ++ events)

def addDialogCoordinator (coordinator : DialogCoordinator WebState) (webState : WebState)
    (delegateIsPresenting : Bool) (presenter : DialogPresenter WebState) :
    Checked (Presented WebState) := do
  dcheck (presenter.presentedDialogWebState ≠ some webState)
  dcheck (presenter.dialogCoordinatorsForWebStates webState = none)
  let presenter := { presenter with
    queuedWebStates := presenter.queuedWebStates ++ [webState]
    dialogCoordinatorsForWebStates :=
      Function.update presenter.dialogCoordinatorsForWebStates webState (some coordinator) }
  let showingDialog ← presenter.isShowingDialog
  if presenter.active = true ∧ showingDialog = false ∧ delegateIsPresenting = false then
    let (after, events) ← presenter.showNextDialog
    return (after, .requested coordinator :: events)
  else
    return (presenter, [.requested coordinator])

def runDialog (kind : DialogKind) (webState : WebState) (delegateIsPresenting : Bool)
    (presenter : DialogPresenter WebState) : Checked (Presented WebState) :=
  match kind with
  | .javaScript showBlockingOption =>
    addDialogCoordinator ⟨presenter.coordinatorsMade, webState, showBlockingOption⟩ webState
      delegateIsPresenting { presenter with
        blockingStates := Function.update presenter.blockingStates webState true
        coordinatorsMade := presenter.coordinatorsMade + 1 }
  | .auth =>
    addDialogCoordinator ⟨presenter.coordinatorsMade, webState, false⟩ webState
      delegateIsPresenting { presenter with coordinatorsMade := presenter.coordinatorsMade + 1 }

/-! ## Taps -/

/-- A button other than the blocking option dismisses the alert and stops the dialog. -/
def tapButton (delegateIsPresenting : Bool) (presenter : DialogPresenter WebState) :
    Checked (Presented WebState) :=
  dialogCoordinatorWasStopped presenter.presentedDialogCoordinator delegateIsPresenting
    { presenter with alertOnScreen := false }

/-- The blocking option dismisses the alert and puts a sheet on the screen, in place of the sheet
of a coordinator that was still held. -/
def tapBlockingOption (presenter : DialogPresenter WebState) : Checked (Presented WebState) := do
  let dialog ← presenter.presentedDialogCoordinator
  return ({ presenter with
    alertOnScreen := false
    blockingConfirmationCoordinator := some ⟨dialog⟩
    sheetOnScreen := true }, [])

/-- A weak reference to a coordinator, which lives as long as the presenter holds it. -/
def weakCoordinator (presenter : DialogPresenter WebState)
    (coordinator : DialogCoordinator WebState) : Option (DialogCoordinator WebState) :=
  if presenter.presentedDialogCoordinator = some coordinator ∨
      presenter.dialogCoordinatorsForWebStates coordinator.webState = some coordinator then
    some coordinator
  else
    none

omit [DecidableEq WebState] in
/-- The blocking button of a sheet looks up the WebState that is presented when it is tapped.
Without a WebState, or without a blocking state for it, a null pointer is followed. -/
def selectBlockingOption (presenter : DialogPresenter WebState) :
    Checked (List (DialogEvent WebState)) := do
  let webState ← presenter.presentedDialogWebState
  dcheck (presenter.blockingStates webState = true)
  return [.blockingOptionSelected webState]

def tapSheet (sheet : BlockingConfirmation WebState) (confirm delegateIsPresenting : Bool)
    (presenter : DialogPresenter WebState) : Checked (Presented WebState) := do
  let presenter := { presenter with sheetOnScreen := false }
  let selected ← if confirm then presenter.selectBlockingOption else pure []
  let (after, events) ← dialogCoordinatorWasStopped (presenter.weakCoordinator sheet.dialog)
    delegateIsPresenting presenter
  return (after, selected ++ events)

/-! ## Cancellations -/

def cancelDialogForWebState (webState : WebState) (delegateIsPresenting : Bool)
    (presenter : DialogPresenter WebState) : Checked (Presented WebState) := do
  if presenter.presentedDialogWebState = some webState then
    dcheck (presenter.presentedDialogCoordinator.isSome = true)
    dcheck (presenter.dialogCoordinatorsForWebStates webState = none)
    dialogCoordinatorWasStopped presenter.presentedDialogCoordinator delegateIsPresenting
      { presenter with alertOnScreen := false }
  else
    match presenter.dialogCoordinatorsForWebStates webState with
    | none => return (presenter, [])
    | some coordinator => do
        dcheck (webState ∈ presenter.queuedWebStates)
        return ({ presenter with
          queuedWebStates := presenter.queuedWebStates.erase webState
          dialogCoordinatorsForWebStates :=
            Function.update presenter.dialogCoordinatorsForWebStates webState none },
          [.withdrawn coordinator])

/-- The loop over the queue, which does not end if a turn does not shorten the queue. -/
def cancelQueuedDialogs : Nat → DialogPresenter WebState → Checked (Presented WebState)
  | 0, presenter => if presenter.queuedWebStates = [] then some (presenter, []) else none
  | turns + 1, presenter =>
    match presenter.queuedWebStates with
    | [] => return (presenter, [])
    | webState :: _ => do
        let (next, events) ← presenter.cancelDialogForWebState webState false
        let (after, more) ← cancelQueuedDialogs turns next
        return (after, events ++ more)

/-- Stopping a coordinator dismisses its alert, but not a sheet that has taken its place. -/
def cancelAllDialogs (presenter : DialogPresenter WebState) : Checked (Presented WebState) := do
  let (after, events) ← cancelQueuedDialogs presenter.queuedWebStates.length { presenter with
    presentedDialogWebState := none
    presentedDialogCoordinator := none
    alertOnScreen := false }
  return (after, presenter.presentedDialogCoordinator.toList.map .closed ++ events)

/-! ## The mode of the presenter -/

def tryToPresent (delegateIsPresenting : Bool) (presenter : DialogPresenter WebState) :
    Checked (Presented WebState) := do
  if presenter.blockingConfirmationCoordinator.isSome then
    return (presenter, [])
  else
    let showingDialog ← presenter.isShowingDialog
    dcheck (showingDialog = false)
    if presenter.active then
      presenter.showNextIfQueued delegateIsPresenting
    else
      return (presenter, [])

def setActive (active delegateIsPresenting : Bool) (presenter : DialogPresenter WebState) :
    Checked (Presented WebState) := do
  if presenter.active ≠ active then
    let (after, events) ← tryToPresent delegateIsPresenting { presenter with active }
    return (after, .activeChanged active :: events)
  else
    return (presenter, [])

def step (presenter : DialogPresenter WebState) :
    DialogInput WebState → Checked (Presented WebState)
  | .runDialog kind webState delegateIsPresenting =>
    presenter.runDialog kind webState delegateIsPresenting
  | .tapButton delegateIsPresenting => presenter.tapButton delegateIsPresenting
  | .tapBlockingOption => presenter.tapBlockingOption
  | .tapSheet sheet confirm delegateIsPresenting =>
    presenter.tapSheet sheet confirm delegateIsPresenting
  | .cancelDialogForWebState webState delegateIsPresenting =>
    presenter.cancelDialogForWebState webState delegateIsPresenting
  | .cancelAllDialogs => presenter.cancelAllDialogs
  | .setActive active delegateIsPresenting => presenter.setActive active delegateIsPresenting
  | .tryToPresent delegateIsPresenting => presenter.tryToPresent delegateIsPresenting

/-- What can be called and tapped: WebStates without a dialog ask for one, and what is tapped
is on the screen. -/
def CanHappen (presenter : DialogPresenter WebState) : DialogInput WebState → Prop
  | .runDialog _ webState _ =>
    webState ∉ presenter.queuedWebStates ∧ presenter.presentedDialogWebState ≠ some webState
  | .tapButton _ => presenter.alertOnScreen = true
  | .tapBlockingOption => presenter.alertOnScreen = true ∧
      presenter.presentedDialogCoordinator.any DialogCoordinator.blockingOption = true
  | .tapSheet sheet _ _ => sheet ∈ presenter.sheetsOnScreen
  | _ => True

instance (presenter : DialogPresenter WebState) :
    ∀ input, Decidable (presenter.CanHappen input)
  | .runDialog _ _ _ => inferInstanceAs (Decidable (_ ∧ _))
  | .tapButton _ => inferInstanceAs (Decidable (_ = _))
  | .tapBlockingOption => inferInstanceAs (Decidable (_ ∧ _))
  | .tapSheet _ _ _ => inferInstanceAs (Decidable (_ ∈ _))
  | .cancelDialogForWebState _ _ | .cancelAllDialogs | .setActive _ _ | .tryToPresent _ =>
    isTrue trivial

/-- The first of two dialogs is replaced by its sheet. -/
def firstOffersOption : List (DialogInput Nat) :=
  [.setActive true false, .runDialog (.javaScript true) 1 false,
    .runDialog (.javaScript false) 2 false, .tapBlockingOption]

end DialogPresenter

end ChromiumIos
