import ChromiumIos.Dialogs.DialogQueue

/-!
# The sheets that confirm the blocking option

A sheet goes with its dialog, unless all dialogs are cancelled, which leaves it on the screen.
Its blocking button looks up the WebState of the dialog that is presented when it is tapped,
and without one it follows a null pointer.
-/

namespace ChromiumIos.DialogPresenter

open Lib

variable {WebState : Type} [DecidableEq WebState]

/-- The blocking button of a sheet calls the WebState whose dialog offered the option, and
none if that dialog is not presented any more. -/
def CallsOwn (presenter : DialogPresenter WebState) (sheet : BlockingConfirmation WebState) :
    Prop :=
  ∃ events, presenter.selectBlockingOption = some events ∧
    (presenter.presentedDialogCoordinator = some sheet.dialog →
      events = [.blockingOptionSelected sheet.dialog.webState]) ∧
    (presenter.presentedDialogCoordinator ≠ some sheet.dialog → events = [])

/-- The blocking button of a sheet does not call another WebState and follows no null pointer. -/
def SparesOthers (presenter : DialogPresenter WebState) (sheet : BlockingConfirmation WebState) :
    Prop :=
  ∃ events, presenter.selectBlockingOption = some events ∧
    ∀ webState, .blockingOptionSelected webState ∈ events → webState = sheet.dialog.webState

def KeepsPresented (presenter : DialogPresenter WebState) : DialogInput WebState → Prop
  | .cancelAllDialogs => presenter.sheetsOnScreen = []
  | _ => True

variable {log : List (DialogEvent WebState)} {events : List (DialogEvent WebState)}
variable {presenter after : DialogPresenter WebState} {sheet : BlockingConfirmation WebState}

omit [DecidableEq WebState] in
theorem selectBlockingOption_eq_some
    (selected : presenter.selectBlockingOption = some events) :
    ∃ webState, presenter.presentedDialogWebState = some webState ∧
      events = [.blockingOptionSelected webState] := by
  obtain ⟨webState, presented, selected⟩ := bind_eq_some selected
  grind [dcheck_then]

theorem callsOwn_iff (sound : Sound log presenter) (offered : Offered presenter)
    (onScreen : sheet ∈ presenter.sheetsOnScreen) :
    CallsOwn presenter sheet ↔ presenter.presentedDialogCoordinator = some sheet.dialog := by
  constructor
  · rintro ⟨events, selected, _, gone⟩
    obtain ⟨webState, _, rfl⟩ := selectBlockingOption_eq_some selected
    grind
  · intro own
    have presented : presenter.presentedDialogWebState = some sheet.dialog.webState := by
      rw [sound.presented, own]
      rfl
    exact ⟨_, selectBlockingOption_of_presented presented (offered.sheets sheet onScreen),
      fun _ => rfl, fun other => absurd own other⟩

omit [DecidableEq WebState] in
theorem sparesOthers_iff (offered : Offered presenter)
    (onScreen : sheet ∈ presenter.sheetsOnScreen) :
    SparesOthers presenter sheet ↔
      presenter.presentedDialogWebState = some sheet.dialog.webState := by
  constructor
  · rintro ⟨events, selected, own⟩
    obtain ⟨webState, presented, rfl⟩ := selectBlockingOption_eq_some selected
    grind
  · intro presented
    refine ⟨_, selectBlockingOption_of_presented presented (offered.sheets sheet onScreen), ?_⟩
    simp

/-! ## Runs in which the presented dialog is kept -/

structure OwnSheets (presenter : DialogPresenter WebState) : Prop where
  own : ∀ sheet ∈ presenter.sheetsOnScreen,
    presenter.presentedDialogCoordinator = some sheet.dialog
  alert : presenter.alertOnScreen = true → presenter.sheetsOnScreen = []

namespace OwnSheets

omit [DecidableEq WebState] in
theorem of_none (noSheets : presenter.sheetsOnScreen = []) : OwnSheets presenter := by
  constructor
  · rw [noSheets]
    nofun
  · exact fun _ => noSheets

omit [DecidableEq WebState] in
theorem shows (sheets : OwnSheets presenter) (shows : Shows presenter after) :
    OwnSheets after := by
  rcases shows.presented with idle | ⟨same, sameAlert⟩
  · refine .of_none (shows.sheets.trans (List.eq_nil_iff_forall_not_mem.mpr ?_))
    intro sheet onScreen
    cases idle.symm.trans (sheets.own sheet onScreen)
  · constructor
    · rw [shows.sheets, same]
      exact sheets.own
    · rw [shows.sheets, sameAlert]
      exact sheets.alert

omit [DecidableEq WebState] in
theorem stops (sheets : OwnSheets presenter) (stops : Stops presenter after) :
    OwnSheets after := by
  rcases stops with rfl | shows
  · exact sheets
  · have closed : OwnSheets presenter.closing := .of_none presenter.sheetsOnScreen_closing
    exact closed.shows shows

theorem step (sheets : OwnSheets presenter) (sound : Sound log presenter)
    {input : DialogInput WebState} (keeps : presenter.KeepsPresented input)
    (stepped : presenter.step input = some (after, events)) : OwnSheets after := by
  have dismissed : OwnSheets { presenter with alertOnScreen := false } := ⟨sheets.own, nofun⟩
  cases sound.steps stepped with
  | queues dialog blockingStates _ _ shows =>
    have queueing : OwnSheets ({ presenter with
        blockingStates
        coordinatorsMade := presenter.coordinatorsMade + 1 }.queueing dialog) :=
      ⟨sheets.own, sheets.alert⟩
    exact queueing.shows shows
  | dismisses stops | cancels _ stops => exact dismissed.stops stops
  | asks dialog presented =>
    refine ⟨?_, nofun⟩
    intro sheet onScreen
    obtain rfl := List.mem_singleton.mp onScreen
    exact presented
  | answers stops =>
    have answered : OwnSheets { presenter with sheetOnScreen := false } := .of_none rfl
    exact answered.stops stops
  | withdraws shows | activates shows | tries shows => exact sheets.shows shows
  | clears => exact .of_none keeps

end OwnSheets

/-- A sheet is right about its WebState exactly as long as its dialog is presented, and spares
others exactly as long as a dialog of its WebState is.  In a run in which the dialogs are not
all cancelled under a sheet, all sheets are right. -/
theorem run_callsOwn :
    (∀ log (presenter : DialogPresenter WebState), Runs step CanHappen {} log presenter →
      ∀ sheet ∈ presenter.sheetsOnScreen,
        (CallsOwn presenter sheet ↔
          presenter.presentedDialogCoordinator = some sheet.dialog) ∧
        (SparesOthers presenter sheet ↔
          presenter.presentedDialogWebState = some sheet.dialog.webState)) ∧
    ∀ log (presenter : DialogPresenter WebState),
      Runs step (fun presenter input => presenter.CanHappen input ∧
        presenter.KeepsPresented input) {} log presenter →
      ∀ sheet ∈ presenter.sheetsOnScreen, CallsOwn presenter sheet := by
  constructor
  · intro log presenter run sheet onScreen
    obtain ⟨sound, offered⟩ := run_soundAndOffered run
    exact (by grind [callsOwn_iff, sparesOthers_iff])
  · intro log presenter run sheet onScreen
    obtain ⟨sound, offered⟩ := run_soundAndOffered (run.mono fun accepted => accepted.1)
    have sheets : OwnSheets presenter := by
      refine run.invariant_outputs (fun _ => OwnSheets) (.of_none rfl) ?_
      rintro log presenter after input events before sheets ⟨_, keeps⟩ stepped
      obtain ⟨sound, _⟩ := run_soundAndOffered (before.mono fun accepted => accepted.1)
      exact sheets.step sound keeps stepped
    exact (callsOwn_iff sound offered onScreen).mpr (sheets.own sheet onScreen)

instance (presenter : DialogPresenter WebState) :
    ∀ input, Decidable (presenter.KeepsPresented input)
  | .cancelAllDialogs => inferInstanceAs (Decidable (presenter.sheetsOnScreen = []))
  | .runDialog _ _ _ | .tapButton _ | .tapBlockingOption | .tapSheet _ _ _
  | .cancelDialogForWebState _ _ | .setActive _ _ | .tryToPresent _ => isTrue trivial

/-- The sheet is right about the first WebState while the second one waits. -/
theorem run_callsOwn_first : ∃ presenter : DialogPresenter Nat,
    CallsOwn presenter ⟨⟨0, 1, true⟩⟩ ∧ presenter.queuedWebStates = [2] := by
  have idle : Runs step (fun presenter input => presenter.CanHappen input ∧
    presenter.KeepsPresented input) ({} : DialogPresenter Nat) [] {} := .start
  exact ⟨_, run_callsOwn.2 _ _ (idle.replay firstOffersOption
    (Option.eq_some_of_isSome (by decide +kernel))) ⟨⟨0, 1, true⟩⟩ (by decide +kernel),
    by decide +kernel⟩

/-- All dialogs are cancelled, and the sheet that is left follows a null pointer. -/
theorem run_followsNull :
    ∃ (log : List (DialogEvent Nat)) (presenter : DialogPresenter Nat),
      Runs step CanHappen {} log presenter ∧ ⟨⟨0, 1, true⟩⟩ ∈ presenter.sheetsOnScreen ∧
        presenter.presentedDialogWebState = none ∧ presenter.selectBlockingOption = none := by
  have idle : Runs step CanHappen ({} : DialogPresenter Nat) [] {} := .start
  exact ⟨_, _, idle.replay (firstOffersOption ++ [.cancelAllDialogs])
    (Option.eq_some_of_isSome (by decide +kernel)), by decide +kernel, by decide +kernel,
    by decide +kernel⟩

end ChromiumIos.DialogPresenter
