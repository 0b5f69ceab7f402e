import ChromiumIos.Lib.Runs
import ChromiumIos.Navigation.NavigationItem

/-!
# The error and retry state of a navigation item

A page that fails to load is shown as an error page under a placeholder entry of
the web view's history.  When the user comes back to it, the URL of the entry is
rewritten to the original one, and the page is then reloaded.  The machine tells
the web controller which of these steps is next.

The functions below are those of the code; `Moves` is the state diagram that they
implement.
-/

namespace ChromiumIos

open Lib

inductive ErrorRetryState where
  | newRequest
  | noNavigationError
  | loadingPlaceholder
  | readyToDisplayErrorForFailedNavigation
  | displayingNativeErrorForFailedNavigation
  | displayingWebErrorForFailedNavigation
  | navigatingToFailedNavigationItem
  | retryFailedNavigationItem
deriving DecidableEq, Repr

inductive ErrorRetryCommand where
  | loadPlaceholder
  | loadErrorView
  | reload
  | rewriteWebViewURL
  | doNothing
deriving DecidableEq, Repr

/-- The URLs that the machine compares with. -/
structure RetryUrls extends NavigationEnvironment where
  createRedirectUrl : GURL → GURL

structure ErrorRetryStateMachine where
  state : ErrorRetryState := .newRequest
  url : GURL := .empty
deriving DecidableEq, Repr

namespace ErrorRetryStateMachine

abbrev Outcome := ErrorRetryCommand × ErrorRetryStateMachine

def setURL (machine : ErrorRetryStateMachine) (url : GURL) : ErrorRetryStateMachine :=
  { machine with url := url }

def setNoNavigationError (machine : ErrorRetryStateMachine) : ErrorRetryStateMachine :=
  { machine with state := .noNavigationError }

def setDisplayingWebError (machine : ErrorRetryStateMachine) : Checked ErrorRetryStateMachine := do
  dcheck (machine.state = .readyToDisplayErrorForFailedNavigation ∨
    machine.state = .retryFailedNavigationItem)
  return { machine with state := .displayingWebErrorForFailedNavigation }

def backForwardOrReloadFailed (machine : ErrorRetryStateMachine) : Outcome :=
  (.loadErrorView, { machine with state := .readyToDisplayErrorForFailedNavigation })

variable (urls : RetryUrls)
variable (machine : ErrorRetryStateMachine)

def didFailProvisionalNavigation (webViewUrl errorUrl : GURL) : Checked Outcome :=
  match machine.state with
  | .newRequest =>
    -- A redirect out of the page that restores sessions has an entry already.
    if webViewUrl = urls.createRedirectUrl errorUrl then
      some (.loadErrorView, { machine with state := .readyToDisplayErrorForFailedNavigation })
    else
      some (.loadPlaceholder, { machine with state := .loadingPlaceholder })
  | .noNavigationError | .retryFailedNavigationItem | .displayingNativeErrorForFailedNavigation
  | .displayingWebErrorForFailedNavigation => some machine.backForwardOrReloadFailed
  | .loadingPlaceholder | .readyToDisplayErrorForFailedNavigation
  | .navigatingToFailedNavigationItem => none

def didFailNavigation (_webViewUrl _errorUrl : GURL) : Checked Outcome :=
  match machine.state with
  | .newRequest =>
    some (.loadErrorView, { machine with state := .readyToDisplayErrorForFailedNavigation })
  | .noNavigationError | .retryFailedNavigationItem | .displayingNativeErrorForFailedNavigation
  | .displayingWebErrorForFailedNavigation => some machine.backForwardOrReloadFailed
  | .loadingPlaceholder | .readyToDisplayErrorForFailedNavigation
  | .navigatingToFailedNavigationItem => none

def didFinishDisplaying (webViewUrl : GURL) : Checked Outcome :=
  if webViewUrl = urls.createPlaceholderUrlForUrl machine.url then
    some (.rewriteWebViewURL, { machine with state := .navigatingToFailedNavigationItem })
  else if urls.isRestoreSessionUrl webViewUrl ∧
      urls.extractTargetURL webViewUrl = some machine.url then
    some (.doNothing, { machine with state := .noNavigationError })
  else do
    dcheck (webViewUrl = machine.url)
    return (.doNothing, { machine with state := .noNavigationError })

def didFinishNavigation (webViewUrl : GURL) : Checked Outcome :=
  match machine.state with
  | .loadingPlaceholder => do
      dcheck (webViewUrl = urls.createPlaceholderUrlForUrl machine.url)
      return (.loadErrorView, { machine with state := .readyToDisplayErrorForFailedNavigation })
  | .newRequest =>
    if urls.isRestoreSessionUrl webViewUrl then some (.doNothing, machine)
    else some (.doNothing, { machine with state := .noNavigationError })
  | .readyToDisplayErrorForFailedNavigation => do
      dcheck (webViewUrl = machine.url)
      return (.doNothing, { machine with state := .displayingWebErrorForFailedNavigation })
  | .displayingNativeErrorForFailedNavigation | .displayingWebErrorForFailedNavigation =>
    machine.didFinishDisplaying urls webViewUrl
  | .navigatingToFailedNavigationItem => do
      dcheck (webViewUrl = machine.url)
      return (.reload, { machine with state := .retryFailedNavigationItem })
  | .retryFailedNavigationItem => do
      dcheck (webViewUrl = machine.url)
      return (.doNothing, { machine with state := .noNavigationError })
  | .noNavigationError => some (.doNothing, machine)

/-! ## Events -/

inductive Event where
  | setURL (url : GURL)
  | setNoNavigationError
  | setDisplayingWebError
  | didFailProvisionalNavigation (webViewUrl errorUrl : GURL)
  | didFailNavigation (webViewUrl errorUrl : GURL)
  | didFinishNavigation (webViewUrl : GURL)
deriving DecidableEq, Repr

/-- An event of a run, the command it was answered with, if any, and the state it led to. -/
structure Transition where
  event : Event
  command : Option ErrorRetryCommand
  state : ErrorRetryState
deriving DecidableEq, Repr

def handle : Event → Checked (Option ErrorRetryCommand × ErrorRetryStateMachine)
  | .setURL url => some (none, machine.setURL url)
  | .setNoNavigationError => some (none, machine.setNoNavigationError)
  | .setDisplayingWebError => do
      let after ← machine.setDisplayingWebError
      return (none, after)
  | .didFailProvisionalNavigation webViewUrl errorUrl => do
      let (command, after) ← machine.didFailProvisionalNavigation urls webViewUrl errorUrl
      return (some command, after)
  | .didFailNavigation webViewUrl errorUrl => do
      let (command, after) ← machine.didFailNavigation webViewUrl errorUrl
      return (some command, after)
  | .didFinishNavigation webViewUrl => do
      let (command, after) ← machine.didFinishNavigation urls webViewUrl
      return (some command, after)

def step (event : Event) : Checked (ErrorRetryStateMachine × List Transition) := do
  let (command, after) ← machine.handle urls event
  return (after, [⟨event, command, after.state⟩])

/-- Every event may come at any time; the assertions are those of the code. -/
def Accepts (_ : ErrorRetryStateMachine) (_ : Event) : Prop := True

/-! ## The state diagram -/

def Event.IsFailure : Event → Prop
  | .didFailProvisionalNavigation _ _ | .didFailNavigation _ _ => True
  | _ => False

/-- The events after which a page may be retried once more. -/
def Event.EndsRetry : Event → Prop
  | .setURL _ | .didFinishNavigation _ => False
  | _ => True

def Displays (state : ErrorRetryState) : Prop :=
  state = .displayingNativeErrorForFailedNavigation ∨
    state = .displayingWebErrorForFailedNavigation

def Retries (state : ErrorRetryState) : Prop :=
  state = .navigatingToFailedNavigationItem ∨ state = .retryFailedNavigationItem ∨
    state = .noNavigationError

inductive Moves : ErrorRetryState → Event → Option ErrorRetryCommand → ErrorRetryState → Prop where
  | urlSet (state : ErrorRetryState) (url : GURL) : Moves state (.setURL url) none state
  | noError (state : ErrorRetryState) :
      Moves state .setNoNavigationError none .noNavigationError
  | readyDisplayed :
      Moves .readyToDisplayErrorForFailedNavigation .setDisplayingWebError none
        .displayingWebErrorForFailedNavigation
  | retryDisplayed :
      Moves .retryFailedNavigationItem .setDisplayingWebError none
        .displayingWebErrorForFailedNavigation
  | provisionalFailed (webViewUrl errorUrl : GURL) :
      Moves .newRequest (.didFailProvisionalNavigation webViewUrl errorUrl)
        (some .loadPlaceholder) .loadingPlaceholder
  | redirectFailed (webViewUrl errorUrl : GURL) :
      Moves .newRequest (.didFailProvisionalNavigation webViewUrl errorUrl)
        (some .loadErrorView) .readyToDisplayErrorForFailedNavigation
  | newFailed (webViewUrl errorUrl : GURL) :
      Moves .newRequest (.didFailNavigation webViewUrl errorUrl)
        (some .loadErrorView) .readyToDisplayErrorForFailedNavigation
  | failed {state : ErrorRetryState} {event : Event} (isFailure : event.IsFailure)
      (from_ : Displays state ∨ state = .retryFailedNavigationItem ∨
        state = .noNavigationError) :
      Moves state event (some .loadErrorView) .readyToDisplayErrorForFailedNavigation
  | placeholderLoaded (webViewUrl : GURL) :
      Moves .loadingPlaceholder (.didFinishNavigation webViewUrl) (some .loadErrorView)
        .readyToDisplayErrorForFailedNavigation
  | restoring (webViewUrl : GURL) :
      Moves .newRequest (.didFinishNavigation webViewUrl) (some .doNothing) .newRequest
  | loaded (webViewUrl : GURL) :
      Moves .newRequest (.didFinishNavigation webViewUrl) (some .doNothing) .noNavigationError
  | errorLoaded (webViewUrl : GURL) :
      Moves .readyToDisplayErrorForFailedNavigation (.didFinishNavigation webViewUrl)
        (some .doNothing) .displayingWebErrorForFailedNavigation
  | rewritten {state : ErrorRetryState} (displays : Displays state) (webViewUrl : GURL) :
      Moves state (.didFinishNavigation webViewUrl) (some .rewriteWebViewURL)
        .navigatingToFailedNavigationItem
  | recovered {state : ErrorRetryState} (displays : Displays state) (webViewUrl : GURL) :
      Moves state (.didFinishNavigation webViewUrl) (some .doNothing) .noNavigationError
  | reloaded (webViewUrl : GURL) :
      Moves .navigatingToFailedNavigationItem (.didFinishNavigation webViewUrl) (some .reload)
        .retryFailedNavigationItem
  | retried (webViewUrl : GURL) :
      Moves .retryFailedNavigationItem (.didFinishNavigation webViewUrl) (some .doNothing)
        .noNavigationError
  | finishedAgain (webViewUrl : GURL) :
      Moves .noNavigationError (.didFinishNavigation webViewUrl) (some .doNothing)
        .noNavigationError

variable {emitted : List Transition}

section Diagram

variable {urls : RetryUrls} {machine after : ErrorRetryStateMachine} {event : Event}
variable {command : ErrorRetryCommand}
variable {errorUrl webViewUrl : GURL}

theorem moves_of_didFailProvisionalNavigation
    (failed : machine.didFailProvisionalNavigation urls webViewUrl errorUrl =
      some (command, after)) :
    Moves machine.state (.didFailProvisionalNavigation webViewUrl errorUrl) (some command)
      after.state := by
  unfold didFailProvisionalNavigation at failed
  split at failed
  case h_1 isNew =>
    rw [isNew]
    split at failed
    · cases failed
      exact .redirectFailed webViewUrl errorUrl
    · cases failed
      exact .provisionalFailed webViewUrl errorUrl
  case h_2 loaded =>
    cases failed
    exact .failed trivial (.inr (.inr loaded))
  case h_3 retrying =>
    cases failed
    exact .failed trivial (.inr (.inl retrying))
  case h_4 native =>
    cases failed
    exact .failed trivial (.inl (.inl native))
  case h_5 web =>
    cases failed
    exact .failed trivial (.inl (.inr web))
  all_goals cases failed

theorem moves_of_didFailNavigation
    (failed : machine.didFailNavigation webViewUrl errorUrl = some (command, after)) :
    Moves machine.state (.didFailNavigation webViewUrl errorUrl) (some command) after.state := by
  unfold didFailNavigation at failed
  split at failed
  case h_1 isNew =>
    cases failed
    rw [isNew]
    exact .newFailed webViewUrl errorUrl
  case h_2 loaded =>
    cases failed
    exact .failed trivial (.inr (.inr loaded))
  case h_3 retrying =>
    cases failed
    exact .failed trivial (.inr (.inl retrying))
  case h_4 native =>
    cases failed
    exact .failed trivial (.inl (.inl native))
  case h_5 web =>
    cases failed
    exact .failed trivial (.inl (.inr web))
  all_goals cases failed

theorem moves_of_didFinishDisplaying (displays : Displays machine.state)
    (finished : machine.didFinishDisplaying urls webViewUrl = some (command, after)) :
    Moves machine.state (.didFinishNavigation webViewUrl) (some command) after.state := by
  unfold didFinishDisplaying at finished
  split at finished
  · cases finished
    exact .rewritten displays webViewUrl
  · split at finished
    · cases finished
      exact .recovered displays webViewUrl
    · obtain ⟨-, finished⟩ := dcheck_then finished
      cases finished
      exact .recovered displays webViewUrl

theorem moves_of_didFinishNavigation
    (finished : machine.didFinishNavigation urls webViewUrl = some (command, after)) :
    Moves machine.state (.didFinishNavigation webViewUrl) (some command) after.state := by
  unfold didFinishNavigation at finished
  split at finished
  case h_1 loading =>
    obtain ⟨-, finished⟩ := dcheck_then finished
    cases finished
    rw [loading]
    exact .placeholderLoaded webViewUrl
  case h_2 isNew =>
    split at finished
    · cases finished
      rw [isNew]
      exact .restoring webViewUrl
    · cases finished
      rw [isNew]
      exact .loaded webViewUrl
  case h_3 ready =>
    obtain ⟨-, finished⟩ := dcheck_then finished
    cases finished
    rw [ready]
    exact .errorLoaded webViewUrl
  case h_4 native => exact moves_of_didFinishDisplaying (.inl native) finished
  case h_5 web => exact moves_of_didFinishDisplaying (.inr web) finished
  case h_6 navigating =>
    obtain ⟨-, finished⟩ := dcheck_then finished
    cases finished
    rw [navigating]
    exact .reloaded webViewUrl
  case h_7 retrying =>
    obtain ⟨-, finished⟩ := dcheck_then finished
    cases finished
    rw [retrying]
    exact .retried webViewUrl
  case h_8 loaded =>
    cases finished
    rw [loaded]
    exact .finishedAgain webViewUrl

/-- The code moves along the diagram. -/
theorem step_moves (stepped : step urls machine event = some (after, emitted)) :
    ∃ command, emitted = [⟨event, command, after.state⟩] ∧
      Moves machine.state event command after.state := by
  obtain ⟨⟨command, _⟩, handled, stepped⟩ := bind_eq_some stepped
  cases stepped
  refine ⟨command, rfl, ?_⟩
  cases event with
  | setURL url =>
    cases handled
    exact .urlSet machine.state url
  | setNoNavigationError =>
    cases handled
    exact .noError machine.state
  | setDisplayingWebError =>
    obtain ⟨_, displaying, handled⟩ := bind_eq_some handled
    obtain ⟨ready | retrying, displaying⟩ := dcheck_then displaying
    · cases displaying
      cases handled
      rw [ready]
      exact .readyDisplayed
    · cases displaying
      cases handled
      rw [retrying]
      exact .retryDisplayed
  | didFailProvisionalNavigation _ _ =>
    obtain ⟨⟨given, failed⟩, failing, handled⟩ := bind_eq_some handled
    cases handled
    exact moves_of_didFailProvisionalNavigation failing
  | didFailNavigation _ _ =>
    obtain ⟨⟨given, _⟩, failing, handled⟩ := bind_eq_some handled
    cases handled
    exact moves_of_didFailNavigation failing
  | didFinishNavigation _ =>
    obtain ⟨⟨_, _⟩, finishing, handled⟩ := bind_eq_some handled
    cases handled
    exact moves_of_didFinishNavigation finishing

end Diagram

section Moves

variable {state next : ErrorRetryState} {event : Event} {command : Option ErrorRetryCommand}

theorem Moves.rewrites (moves : Moves state event (some .rewriteWebViewURL) next) :
    Displays state ∧ next = .navigatingToFailedNavigationItem := by
  cases moves
  grind

theorem Moves.reloads (moves : Moves state event (some .reload) next) :
    state = .navigatingToFailedNavigationItem ∧ next = .retryFailedNavigationItem := by
  cases moves
  simp

theorem Moves.loadsPlaceholder (moves : Moves state event (some .loadPlaceholder) next) :
    state = .newRequest ∧ next = .loadingPlaceholder := by
  cases moves
  simp

/-- A machine is about to reload only when its last command was to rewrite the URL. -/
theorem Moves.navigates (moves : Moves state event command .navigatingToFailedNavigationItem) :
    command = some .rewriteWebViewURL ∨
      (command = none ∧ state = .navigatingToFailedNavigationItem) := by
  cases moves <;> simp

theorem Moves.newRequest (moves : Moves state event command .newRequest) :
    state = .newRequest := by
  cases moves <;> simp

theorem Retries.not_displays (retries : Retries state) : ¬ Displays state := by
  rcases retries with rfl | rfl | rfl <;> rintro (displays | displays) <;> cases displays

/-- A retry that has begun goes on until it fails or is ended. -/
theorem Retries.moves (retries : Retries state) (moves : Moves state event command next)
    (goesOn : ¬ event.EndsRetry) : Retries next := by
  cases moves with
  | urlSet _ _ => exact retries
  | noError state | recovered displays webViewUrl | retried webViewUrl
  | finishedAgain _ => exact .inr (.inr rfl)
  | failed isFailure _ =>
    cases event with
    | didFailProvisionalNavigation webViewUrl errorUrl | didFailNavigation webViewUrl errorUrl =>
      exact absurd trivial goesOn
    | _ => cases isFailure
  | rewritten _ _ => simp [Retries]
  | reloaded _ => exact .inr (.inl rfl)
  | readyDisplayed | retryDisplayed => exact absurd trivial goesOn
  | _ => simp [Retries] at retries

/-- Only a failure leads away from a page without error. -/
theorem Moves.leaves (moves : Moves .noNavigationError event command next)
    (left : next ≠ .noNavigationError) : event.IsFailure := by
  cases moves with
  | failed isFailure _ => exact isFailure
  | rewritten displays _ => rcases displays with displays | displays <;> cases displays
  | _ => exact absurd rfl left

end Moves

/-! ## Runs -/

def commands (log : List Transition) : List ErrorRetryCommand :=
  log.filterMap fun transition => transition.command.filter (· ≠ .doNothing)

theorem commands_append (log more : List Transition) :
    commands (log ++ more) = commands log ++ commands more :=
  List.filterMap_append ..

/-- What the commands and the states of a run are to look like. -/
structure Disciplined (log : List Transition) : Prop where
  /-- What was asked for before a reload is to rewrite the URL. -/
  reloads : ∀ {before after : List Transition} {reload : Transition},
    log = before ++ reload :: after →
    reload.command = some .reload → (commands before).getLast? = some .rewriteWebViewURL
  /-- A page is not retried again before the retry has ended. -/
  retries : ∀ {before between after : List Transition} {first second : Transition},
    log = before ++ first :: (between ++ second :: after) →
    first.command = some .rewriteWebViewURL ∨ first.command = some .reload →
    second.command = some .rewriteWebViewURL →
    ∃ transition ∈ between, transition.event.EndsRetry
  newRequest : ∀ {before after : List Transition} {transition : Transition},
    log = before ++ transition :: after →
    transition.state ≠ .newRequest → ∀ later ∈ after, later.state ≠ .newRequest
  placeholder : log.countP (fun transition => transition.command = some .loadPlaceholder) ≤ 1
  errors : ∀ {before after : List Transition} {transition later : Transition},
    log = before ++ transition :: later :: after →
    transition.state = .noNavigationError → later.state ≠ .noNavigationError →
    later.event.IsFailure

section Runs

variable {urls : RetryUrls} {initial machine : ErrorRetryStateMachine}
variable {log before after between more : List Transition} {transition : Transition}

theorem step_single {event : Event} (stepped : step urls initial event = some (machine, emitted)) :
    ∃ transition, emitted = [transition] := by
  grind [step_moves]

/-- The moves of a run can be looked at one by one. -/
theorem run_moves (run : Runs (step urls) Accepts initial (before ++ transition :: after) machine) :
    ∃ source target, Runs (step urls) Accepts initial before source ∧
      Moves source.state transition.event transition.command transition.state ∧
      target.state = transition.state ∧ Runs (step urls) Accepts target after machine := by
  obtain ⟨source, head, tail⟩ := run.split step_single
  obtain ⟨event, target, -, stepped, rest⟩ := tail.first step_single
  grind [step_moves]

variable (run : Runs (step urls) Accepts initial log machine)
include run

/-- A retry goes on through a run without an event that ends it. -/
theorem run_retries (retries : Retries initial.state)
    (goesOn : ∀ transition ∈ log, ¬ transition.event.EndsRetry) : Retries machine.state := by
  induction run with
  | start => exact retries
  | next _ _ stepped ih =>
    obtain ⟨_, rfl, moves⟩ := step_moves stepped
    have kept := ih fun transition mem => goesOn transition (List.mem_append_left _ mem)
    exact kept.moves moves (goesOn _ (List.mem_append_right _ (List.mem_singleton_self _)))

theorem run_newRequest (started : initial.state ≠ .newRequest) :
    machine.state ≠ .newRequest ∧ ∀ transition ∈ log, transition.state ≠ .newRequest := by
  induction run with
  | start => simp [started]
  | next before accepted stepped ih =>
    rename_i previous next event
    obtain ⟨command, rfl, moves⟩ := step_moves stepped
    obtain ⟨kept, all⟩ := ih
    have isOld : next.state ≠ .newRequest := by
      intro isNew
      rw [isNew] at moves
      exact kept moves.newRequest
    grind

/-- A machine that is to reload was asked to rewrite the URL last. -/
theorem run_navigates (started : initial.state = .newRequest)
    (navigating : machine.state = .navigatingToFailedNavigationItem) :
    (commands log).getLast? = some .rewriteWebViewURL := by
  induction run with
  | start =>
    simp [started] at navigating
  | next _ _ stepped _ =>
    obtain ⟨command, rfl, moves⟩ := step_moves stepped
    rw [commands_append]
    rw [navigating] at moves ⊢
    rcases moves.navigates with rfl | ⟨rfl, still⟩ <;> grind [commands]

theorem run_placeholder :
    log.countP (fun transition => transition.command = some .loadPlaceholder) ≤ 1 ∧
      (machine.state = .newRequest →
        log.countP (fun transition => transition.command = some .loadPlaceholder) = 0) := by
  induction run with
  | start => exact ⟨Nat.zero_le _, fun _ => rfl⟩
  | next _ _ stepped ih =>
    obtain ⟨command, rfl, moves⟩ := step_moves stepped
    obtain ⟨bound, unused⟩ := ih
    rw [List.countP_append, List.countP_singleton]
    by_cases loads : command = some .loadPlaceholder
    · subst loads
      simp [moves.loadsPlaceholder, unused]
    · rw [if_neg (by simpa using loads)]
      refine ⟨bound, fun isNew => ?_⟩
      rw [isNew] at moves
      exact unused moves.newRequest

omit run

/-- Over every sequence of events, a reload follows upon a rewritten URL and happens
once, a placeholder is loaded once, and a page without error shows one only after a
failure. -/
theorem run_transitionsDisciplined (urls : RetryUrls) (log : List Transition)
    (machine : ErrorRetryStateMachine) (run : Runs (step urls) Accepts {} log machine) :
    Disciplined log where
  reloads := by
    intro before after reload split reloads
    subst split
    obtain ⟨_, target, head, moves, -, -⟩ := run_moves run
    rw [reloads] at moves
    exact run_navigates head rfl moves.reloads.1
  retries := by
    intro before between after first second split retry again
    subst split
    obtain ⟨_, started, -, moves, reached, tail⟩ := run_moves run
    obtain ⟨from_, -, middle, rewrites, -, -⟩ := run_moves tail
    have retries : Retries started.state := by
      rw [reached]
      rcases retry with rewritten | reloaded
      · rw [rewritten] at moves
        exact .inl moves.rewrites.2
      · rw [reloaded] at moves
        exact .inr (.inl moves.reloads.2)
    rw [again] at rewrites
    by_contra none
    have goesOn : ∀ transition ∈ between, ¬ transition.event.EndsRetry :=
      fun transition mem ends => none ⟨transition, mem, ends⟩
    exact (run_retries middle retries goesOn).not_displays rewrites.rewrites.1
  newRequest := by
    intro before after transition split isOld
    subst split
    obtain ⟨-, target, -, -, reached, tail⟩ := run_moves run
    exact (run_newRequest tail (reached ▸ isOld)).2
  placeholder := (run_placeholder run).1
  errors := by
    intro before after transition later split loaded left
    subst split
    obtain ⟨-, target, -, -, reached, tail⟩ := run_moves run
    obtain ⟨_, -, none, moves, -, -⟩ :=
      run_moves (show Runs (step urls) Accepts target ([] ++ later :: after) machine from tail)
    rw [none.eq_of_no_outputs step_single, reached, loaded] at moves
    exact moves.leaves left

end Runs

instance (event : Event) : Decidable (Accepts machine event) :=
  isTrue trivial

def namedPlaceholders : RetryUrls :=
  { plainEnvironment with
    createPlaceholderUrlForUrl := fun url => ⟨"about:blank?for=" ++ url.spec⟩
    createRedirectUrl := fun url => ⟨"restore#" ++ url.spec⟩ }

/-- A page that cannot be reached, until the user comes back to it. -/
def failAndRetry : List Event :=
  [.setURL ⟨"page"⟩, .didFailProvisionalNavigation .empty ⟨"page"⟩,
    .didFinishNavigation ⟨"about:blank?for=page"⟩, .didFinishNavigation ⟨"page"⟩,
    .didFinishNavigation ⟨"about:blank?for=page"⟩, .didFinishNavigation ⟨"page"⟩,
    .didFinishNavigation ⟨"page"⟩]

theorem run_transitionsDisciplined_failAndRetry :
    ∃ log, Disciplined log ∧
      commands log = [.loadPlaceholder, .loadErrorView, .rewriteWebViewURL, .reload] ∧
      (log.map Transition.state).getLast? = some .noNavigationError := by
  have run : Runs (step namedPlaceholders) Accepts {} _ _ :=
    Runs.replay failAndRetry .start (Option.eq_some_of_isSome (by decide))
  exact ⟨_, run_transitionsDisciplined namedPlaceholders _ _ run, by decide, by decide⟩

end ErrorRetryStateMachine

end ChromiumIos
