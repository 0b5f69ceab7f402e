import ChromiumIos.Prerender.PreloadController

/-!
# Scheduled cancellations of prerenders

An event of the prerendered page that must not happen unseen schedules a cancellation for
the next turn of the run loop.  Until then another request may be made, which drops it.
-/

namespace ChromiumIos

open Lib

namespace PreloadController

variable {device : PrerenderDevice} {controller after : PreloadController} {input : Input}
variable {log events : List PreloadEvent} {webState due time : Nat}

/-! ## What a step does -/

/-- What a step does to the WebState and the requests, and what it tells. -/
inductive Effect (device : PrerenderDevice) (controller : PreloadController) :
    Input → PreloadController → List PreloadEvent → Prop where
  | keep {input : Input} {after : PreloadController}
      (webState : after.webState = controller.webState)
      (next : after.nextWebState = controller.nextWebState) (now : after.now = controller.now)
      (requests : after.performRequests = controller.performRequests) :
      Effect device controller input after []
  | request {after : PreloadController} {url : GURL} {referrer : Referrer}
      {transition : PageTransition} {immediately : Bool}
      (accepted : controller.isAccepted device url = true)
      (webState : after.webState = controller.webState)
      (next : after.nextWebState = controller.nextWebState) (now : after.now = controller.now)
      (requests : after.performRequests =
        [⟨.startPrerender, controller.now + if immediately then 0 else kPrerenderDelay⟩]) :
      Effect device controller (.prerenderURL url referrer transition immediately) after []
  | schedule {input : Input} {after : PreloadController}
      (webState : after.webState = controller.webState)
      (next : after.nextWebState = controller.nextWebState) (now : after.now = controller.now)
      (requests : after.performRequests = [⟨.cancelPrerender, controller.now⟩]) :
      Effect device controller input after [.scheduleCancel controller.webState controller.now]
  | destroy {input : Input} {after : PreloadController} (reason : PrerenderFinalStatus)
      (webState : after.webState = none) (next : after.nextWebState = controller.nextWebState)
      (now : after.now = controller.now) :
      Effect device controller input after
        (controller.webState.toList.map fun webState => .destroy webState reason)
  | release {input : Input} {after : PreloadController} (webState : after.webState = none)
      (next : after.nextWebState = controller.nextWebState) (now : after.now = controller.now) :
      Effect device controller input after
        (controller.webState.toList.map fun webState => .release webState controller.now)
  | start {input : Input} {after : PreloadController} (url : GURL) (referrer : Referrer)
      (transition : PageTransition) (desktopUserAgent : Bool)
      (webState : after.webState = some controller.nextWebState)
      (next : after.nextWebState = controller.nextWebState + 1)
      (now : after.now = controller.now) :
      Effect device controller input after
        ((controller.webState.toList.map fun webState => .destroy webState .cancelled) ++
          [.load controller.nextWebState url referrer transition desktopUserAgent])
  | advance {after : PreloadController} {time : Nat}
      (webState : after.webState = controller.webState)
      (next : after.nextWebState = controller.nextWebState) (now : after.now = time)
      (requests : after.performRequests = controller.performRequests) :
      Effect device controller (.advance time) after []

/-- A cancellation has the effect of a destruction, whatever was pending before. -/
theorem cancelPrerenderForReason_effect (other : PreloadController)
    (reason : PrerenderFinalStatus) (webState : other.webState = controller.webState)
    (next : other.nextWebState = controller.nextWebState) (now : other.now = controller.now) :
    Effect device controller input (other.cancelPrerenderForReason reason).1
      (other.cancelPrerenderForReason reason).2 := by
  obtain ⟨_, _, destroyed⟩ :=
    destroyPreviewContents_eq other.removeScheduledPrerenderRequests reason
  rw [cancelPrerenderForReason, destroyed]
  simpa [removeScheduledPrerenderRequests, webState] using .destroy reason rfl next now

/-- Two controllers that differ in fields that have nothing to do with WebStates. -/
structure Same (controller other : PreloadController) : Prop where
  webState : other.webState = controller.webState
  next : other.nextWebState = controller.nextWebState
  now : other.now = controller.now
  requests : other.performRequests = controller.performRequests

theorem Effect.of_same {last : PreloadController}
    (effect : Effect device controller input after events) (same : Same after last) :
    Effect device controller input last events := by
  obtain ⟨sameWebState, sameNext, sameNow, sameRequests⟩ := same
  cases effect with
  | keep webState next now requests =>
    exact .keep (sameWebState.trans webState) (sameNext.trans next) (sameNow.trans now)
      (sameRequests.trans requests)
  | request accepted webState next now requests =>
    exact .request accepted (sameWebState.trans webState) (sameNext.trans next)
      (sameNow.trans now) (sameRequests.trans requests)
  | schedule webState next now requests =>
    exact .schedule (sameWebState.trans webState) (sameNext.trans next) (sameNow.trans now)
      (sameRequests.trans requests)
  | destroy reason webState next now =>
    exact .destroy reason (sameWebState.trans webState) (sameNext.trans next)
      (sameNow.trans now)
  | release webState next now =>
    exact .release (sameWebState.trans webState) (sameNext.trans next) (sameNow.trans now)
  | start url referrer transition desktopUserAgent webState next now =>
    exact .start url referrer transition desktopUserAgent (sameWebState.trans webState)
      (sameNext.trans next) (sameNow.trans now)
  | advance webState next now requests =>
    exact .advance (sameWebState.trans webState) (sameNext.trans next) (sameNow.trans now)
      (sameRequests.trans requests)

theorem watchConnection_same (controller : PreloadController) :
    Same controller controller.watchConnection := by
  unfold watchConnection
  split
  · exact ⟨rfl, rfl, rfl, rfl⟩
  · exact ⟨rfl, rfl, rfl, rfl⟩

theorem changeConnection_effect (cellular : Bool) :
    Effect device controller input (controller.changeConnection cellular).1
      (controller.changeConnection cellular).2 := by
  unfold changeConnection connectionTypeChanged
  dsimp only
  split
  · split
    · grind [cancelPrerender, cancelPrerenderForReason_effect]
    · exact .keep rfl rfl rfl rfl
  · exact .keep rfl rfl rfl rfl

theorem setPreferences_effect (networkPredictionEnabled networkPredictionWifiOnly : Bool) :
    Effect device controller input (controller.setPreferences networkPredictionEnabled
        networkPredictionWifiOnly).1
      (controller.setPreferences networkPredictionEnabled networkPredictionWifiOnly).2 := by
  let read := (controller.withPreferences networkPredictionEnabled
    networkPredictionWifiOnly).readPreferences
  obtain ⟨webState, next, now, requests⟩ := watchConnection_same read
  unfold setPreferences onPreferenceChanged
  dsimp only
  split
  · exact .keep rfl rfl rfl rfl
  · split
    · split
      · exact cancelPrerenderForReason_effect read.watchConnection .cancelled webState next now
      · exact .keep webState next now requests
    · split
      · exact .keep rfl rfl rfl rfl
      · have cancelled : Effect device controller input (read.cancelPrerenderForReason .cancelled).1
            (read.cancelPrerenderForReason .cancelled).2 :=
          cancelPrerenderForReason_effect read .cancelled rfl rfl rfl
        exact cancelled.of_same ⟨rfl, rfl, rfl, rfl⟩

theorem prerenderURL_effect (url : GURL) (referrer : Referrer) (transition : PageTransition)
    (immediately : Bool) :
    Effect device controller (.prerenderURL url referrer transition immediately)
      (controller.prerenderURL device url referrer transition immediately) [] := by
  unfold prerenderURL
  split
  · next accepted => exact .request accepted rfl rfl rfl rfl
  · exact .keep rfl rfl rfl rfl

theorem releasePrerenderContents_effect
    (released : controller.releasePrerenderContents = some (after, events)) :
    Effect device controller input after events := by
  obtain ⟨-, released⟩ := dcheck_then released
  have effect : ∀ last : PreloadController, last.webState = none →
      last.nextWebState = controller.nextWebState → last.now = controller.now →
      Effect device controller input last
        (controller.webState.toList.map fun webState => .release webState controller.now) :=
    fun _ webState next now => .release webState next now
  cases prerendering : controller.webState with
  | none =>
    rw [prerendering] at released effect
    cases released
    exact effect _ prerendering rfl rfl
  | some _ =>
    rw [prerendering] at released effect
    cases released
    exact effect _ rfl rfl rfl

theorem performRequest_effect {position : Nat} {desktopUserAgent : Bool}
    (performed : controller.performRequest device position desktopUserAgent =
      some (after, events)) : Effect device controller input after events := by
  obtain ⟨request, -, performed⟩ := bind_eq_some performed
  let taken : PreloadController :=
    { controller with performRequests := controller.performRequests.eraseIdx position }
  cases selector : request.selector with
  | cancelPrerender =>
    rw [selector] at performed
    have effect : Effect device controller input (taken.cancelPrerenderForReason .cancelled).1
        (taken.cancelPrerenderForReason .cancelled).2 :=
      cancelPrerenderForReason_effect taken .cancelled rfl rfl rfl
    rw [show taken.cancelPrerenderForReason .cancelled = (after, events) from
      Option.some.inj performed] at effect
    exact effect
  | startPrerender =>
    rw [selector] at performed
    change taken.startPrerender device desktopUserAgent = _ at performed
    have valid : device.isValid taken.scheduledURL = true := by
      obtain ⟨url, time, destroyed⟩ := destroyPreviewContents_eq taken .cancelled
      grind [startPrerender, dcheck_then]
    rw [startPrerender_eq taken desktopUserAgent valid] at performed
    cases performed
    exact .start _ _ _ _ rfl rfl rfl

theorem step_effect
    (stepped : controller.step device input = some (after, events)) :
    Effect device controller input after events := by
  have results : ∀ outcome : Outcome, some outcome = some (after, events) →
      Effect device controller input outcome.1 outcome.2 →
      Effect device controller input after events := by
    simp
  cases input with
  | prerenderURL url referrer transition immediately =>
    exact results _ stepped (prerenderURL_effect url referrer transition immediately)
  | cancelPrerender =>
    exact results _ stepped (cancelPrerenderForReason_effect controller .cancelled rfl rfl rfl)
  | releasePrerenderContents => exact releasePrerenderContents_effect stepped
  | setNetworkPredictionEnabled value | setNetworkPredictionWifiOnly value =>
    exact results _ stepped (setPreferences_effect _ _)
  | changeConnection cellular => exact results _ stepped (changeConnection_effect cellular)
  | didReceiveMemoryWarning =>
    exact results _ stepped
      (by grind [cancelPrerenderForReason_effect])
  | webStateEvent _ _ =>
    rcases webStateEvent_cases stepped with scheduled | ⟨rfl, rfl⟩
    · exact results _ (congrArg some scheduled.symm) (.schedule rfl rfl rfl rfl)
    · exact .keep rfl rfl rfl rfl
  | perform _ _ => exact performRequest_effect stepped
  | advance _ => exact results _ stepped (.advance rfl rfl rfl rfl)

/-! ## What becomes of a WebState that is to be cancelled -/

structure CancelledInTime (log : List PreloadEvent) (controller : PreloadController) : Prop where
  gone : ∀ webState due, .scheduleCancel (some webState) due ∈ log → due < controller.now →
    controller.webState ≠ some webState ∧
      ((∃ reason, .destroy webState reason ∈ log) ∨ ∃ time ≤ due, .release webState time ∈ log)
  released : ∀ webState due time, .scheduleCancel (some webState) due ∈ log →
    .release webState time ∈ log → time ≤ due

/-- No delayed request is taken while the prerendered WebState is to be cancelled in this turn
of the run loop. -/
def Undropped (device : PrerenderDevice) (state : PreloadController × List PreloadEvent) :
    Input → Prop
  | .prerenderURL url _ _ false =>
    state.1.isAccepted device url = true → ∀ webState ∈ state.1.webState,
      .scheduleCancel (some webState) state.1.now ∉ state.2
  | _ => True

/-- Something is due now for as long as the prerendered WebState is to be cancelled. -/
structure Timely (log : List PreloadEvent) (controller : PreloadController) : Prop where
  fresh : ∀ webState due, .scheduleCancel (some webState) due ∈ log →
    webState < controller.nextWebState
  numbered : ∀ webState time, .release webState time ∈ log → webState < controller.nextWebState
  current : ∀ webState, controller.webState = some webState →
    webState < controller.nextWebState ∧ ∀ time, .release webState time ∉ log
  accounted : ∀ webState < controller.nextWebState, controller.webState = some webState ∨
    (∃ reason, .destroy webState reason ∈ log) ∨ ∃ time, .release webState time ∈ log
  pending : ∀ webState due, controller.webState = some webState →
    .scheduleCancel (some webState) due ∈ log →
    due = controller.now ∧ ∃ request ∈ controller.performRequests, request.due = controller.now
  released : ∀ webState due time, .scheduleCancel (some webState) due ∈ log →
    .release webState time ∈ log → time ≤ due

variable (timely : Timely log controller)
include timely

theorem Timely.cancelledInTime : CancelledInTime log controller where
  gone webState due scheduled late := by
    have notCurrent : controller.webState ≠ some webState := by grind [timely.pending]
    refine ⟨notCurrent, ?_⟩
    rcases timely.accounted webState (timely.fresh webState due scheduled) with
      current | destroyed | ⟨time, released⟩
    · exact absurd current notCurrent
    · exact .inl destroyed
    · exact .inr ⟨time, timely.released webState due time scheduled released, released⟩
  released := timely.released

/-- A WebState that is destroyed or released is none that is to be cancelled any more. -/
theorem Timely.gone (webState : after.webState = none)
    (next : after.nextWebState = controller.nextWebState)
    (noSchedule : ∀ webState due, .scheduleCancel webState due ∉ events)
    (isGone : ∀ webState, controller.webState = some webState →
      (∃ reason, .destroy webState reason ∈ events) ∨ ∃ time, .release webState time ∈ events)
    (released : ∀ webState time, .release webState time ∈ events →
      controller.webState = some webState ∧ time = controller.now) :
    Timely (log ++ events) after where
  fresh other due scheduled := by
    rw [next]
    rcases List.mem_append.mp scheduled with old | new
    · exact timely.fresh other due old
    · exact absurd new (noSchedule _ _)
  numbered other time isReleased := by
    rw [next]
    rcases List.mem_append.mp isReleased with old | new
    · exact timely.numbered other time old
    · exact (timely.current other (released other time new).1).1
  current other isCurrent := by
    simp [webState] at isCurrent
  accounted other bound := by
    grind [timely.accounted]
  pending other due isCurrent := by
    simp [webState] at isCurrent
  released other due time scheduled isReleased := by
    have scheduled := (List.mem_append.mp scheduled).resolve_right (noSchedule _ _)
    rcases List.mem_append.mp isReleased with old | new
    · exact timely.released other due time scheduled old
    · obtain ⟨isCurrent, rfl⟩ := released other time new
      exact Nat.le_of_eq (timely.pending other due isCurrent scheduled).1.symm

/-- A step that leaves the WebState alone is to be checked for what is due. -/
theorem Timely.keep (webState : after.webState = controller.webState)
    (next : after.nextWebState = controller.nextWebState)
    (scheduled : ∀ webState due, .scheduleCancel (some webState) due ∈ events →
      controller.webState = some webState)
    (noRelease : ∀ webState time, .release webState time ∉ events)
    (pending : ∀ webState due, controller.webState = some webState →
      .scheduleCancel (some webState) due ∈ log ++ events →
      due = after.now ∧ ∃ request ∈ after.performRequests, request.due = after.now) :
    Timely (log ++ events) after where
  fresh other due isScheduled := by
    rw [next]
    rcases List.mem_append.mp isScheduled with old | new
    · exact timely.fresh other due old
    · exact (timely.current other (scheduled other due new)).1
  numbered other time isReleased := by
    rw [next]
    exact timely.numbered other time
      (by grind)
  current other isCurrent := by
    rw [webState] at isCurrent
    simp [next, timely.current, isCurrent, noRelease]
  accounted other bound := by
    rw [next] at bound
    rcases timely.accounted other bound with isCurrent | ⟨reason, destroyed⟩ | ⟨time,
      released⟩ <;> grind
  pending other due isCurrent := pending other due (webState.symm.trans isCurrent)
  released other due time isScheduled isReleased := by
    have old := (List.mem_append.mp isReleased).resolve_right (noRelease other time)
    rcases List.mem_append.mp isScheduled with before | new
    · exact timely.released other due time before old
    · exact absurd old ((timely.current other (scheduled other due new)).2 time)

/-- A destroyed WebState is gone, whatever the reason. -/
theorem Timely.destroy (reason : PrerenderFinalStatus) (webState : after.webState = none)
    (next : after.nextWebState = controller.nextWebState) :
    Timely (log ++ controller.webState.toList.map fun webState => .destroy webState reason)
      after := by
  refine timely.gone webState next ?_ ?_ ?_
  · simp
  · grind
  · simp

theorem Timely.release (webState : after.webState = none)
    (next : after.nextWebState = controller.nextWebState) :
    Timely (log ++ controller.webState.toList.map fun webState =>
      .release webState controller.now) after := by
  refine timely.gone webState next ?_ ?_ ?_
  · simp
  · grind
  · grind

omit timely

/-- A new WebState has a number of its own. -/
theorem Timely.load (timely : Timely log controller) (none : controller.webState = none)
    {url : GURL} {referrer : Referrer} {transition : PageTransition} {desktopUserAgent : Bool}
    (webState : after.webState = some controller.nextWebState)
    (next : after.nextWebState = controller.nextWebState + 1) :
    Timely (log ++ [.load controller.nextWebState url referrer transition desktopUserAgent])
      after := by
  have scheduled : ∀ other due,
      .scheduleCancel (some other) due ∈ log ++ [.load controller.nextWebState url referrer
        transition desktopUserAgent] → .scheduleCancel (some other) due ∈ log := by
    simp
  have released : ∀ other time,
      .release other time ∈ log ++ [.load controller.nextWebState url referrer transition
        desktopUserAgent] → .release other time ∈ log := by
    simp
  refine ⟨?_, ?_, ?_, ?_, ?_, ?_⟩
  · intro other due mem
    rw [next]
    exact Nat.lt_succ_of_lt (timely.fresh other due (scheduled other due mem))
  · intro other time mem
    rw [next]
    exact Nat.lt_succ_of_lt (timely.numbered other time (released other time mem))
  · intro other isCurrent
    cases webState.symm.trans isCurrent
    rw [next]
    exact ⟨Nat.lt_succ_self _, fun time mem =>
      Nat.lt_irrefl _ (timely.numbered _ time (released _ time mem))⟩
  · intro other bound
    rw [next] at bound
    rcases Nat.lt_succ_iff_lt_or_eq.mp bound with earlier | rfl
    · rcases timely.accounted other earlier with isCurrent | ⟨reason, destroyed⟩ | ⟨time,
        mem⟩ <;> grind
    · exact .inl webState
  · intro other due isCurrent mem
    cases webState.symm.trans isCurrent
    exact absurd (timely.fresh _ due (scheduled _ due mem)) (Nat.lt_irrefl _)
  · simpa using timely.released

include timely

theorem Timely.step (accepted : Accepts device controller input)
    (onTime : OnTime controller input) (undropped : Undropped device (controller, log) input)
    (effect : Effect device controller input after events) : Timely (log ++ events) after := by
  cases effect with
  | keep webState next now requests =>
    refine timely.keep webState next nofun nofun fun other due isCurrent scheduled => ?_
    grind [timely.pending]
  | request isAccepted webState next now requests =>
    refine timely.keep webState next nofun nofun fun other due isCurrent scheduled => ?_
    rw [List.append_nil] at scheduled
    obtain ⟨rfl, -⟩ := timely.pending other due isCurrent scheduled
    rw [now, requests]
    rename_i immediately
    cases immediately with
    | true => simp
    | false => exact absurd scheduled (undropped isAccepted other isCurrent)
  | schedule webState next now requests =>
    refine timely.keep webState next ?_ ?_ fun other due isCurrent scheduled => ?_
    · grind
    · simp
    · grind [List.mem_singleton_self, timely.pending]
  | destroy reason webState next now => exact timely.destroy reason webState next
  | release webState next now => exact timely.release webState next
  | start url referrer transition desktopUserAgent webState next now =>
    rw [← List.append_assoc]
    let gone : PreloadController := { controller with webState := none }
    have destroyed : Timely _ gone := timely.destroy .cancelled rfl rfl
    exact destroyed.load rfl webState next
  | advance webState next now requests =>
    refine timely.keep webState next nofun nofun fun other due isCurrent scheduled => ?_
    rw [List.append_nil] at scheduled
    obtain ⟨rfl, request, mem, isDue⟩ := timely.pending other due isCurrent scheduled
    have stays : after.now = controller.now := by
      rw [now]
      exact Nat.le_antisymm (isDue ▸ onTime request mem) accepted
    grind

omit timely

/-- While no delayed request is taken between the scheduling of a cancellation and the next turn
of the run loop, every prerender that is to be cancelled is. -/
theorem run_cancelledInTime (device : PrerenderDevice)
    (networkPredictionEnabled networkPredictionWifiOnly isConnectionCellular : Bool)
    (log : List PreloadEvent) (state : PreloadController × List PreloadEvent)
    (run : Runs (logged (PreloadController.step device))
      (fun state input => Accepts device state.1 input ∧ OnTime state.1 input ∧
        Undropped device state input)
      (initWithBrowserState networkPredictionEnabled networkPredictionWifiOnly
        isConnectionCellular, []) log state) :
    CancelledInTime log state.1 := by
  have timely : Timely state.2 state.1 := by
    refine run.invariant (fun state => Timely state.2 state.1) ?_ ?_
    · exact ⟨nofun, nofun, nofun, nofun, nofun, nofun⟩
    · intro state after input emitted timely accepted stepped
      obtain ⟨stepped, logged⟩ := logged_eq_some stepped
      grind [step_effect, timely.step]
  rw [run.logged_snd] at timely
  exact timely.cancelledInTime

instance (controller : PreloadController) (input : Input) : Decidable (OnTime controller input) :=
  match input with
  | .perform position _ => inferInstanceAs (Decidable (∀ request ∈
      controller.performRequests[position]?, request.due ≤ controller.now))
  | .advance time => inferInstanceAs (Decidable (∀ request ∈ controller.performRequests,
      time ≤ request.due))
  | .prerenderURL _ _ _ _ | .cancelPrerender | .releasePrerenderContents
  | .setNetworkPredictionEnabled _ | .setNetworkPredictionWifiOnly _ | .changeConnection _
  | .didReceiveMemoryWarning | .webStateEvent _ _ => isTrue trivial

instance (device : PrerenderDevice) (state : PreloadController × List PreloadEvent)
    (input : Input) : Decidable (Undropped device state input) :=
  match input with
  | .prerenderURL _ _ _ false => inferInstanceAs (Decidable (_ = true → ∀ webState ∈
      state.1.webState, _ ∉ state.2))
  | .prerenderURL _ _ _ true | .cancelPrerender | .releasePrerenderContents
  | .setNetworkPredictionEnabled _ | .setNetworkPredictionWifiOnly _ | .changeConnection _
  | .didReceiveMemoryWarning | .webStateEvent _ _ | .perform _ _ | .advance _ => isTrue trivial

def needsNativeContent : List Input :=
  [.prerenderURL ⟨"http://a/"⟩ ⟨.empty, referrerPolicyDefault⟩ .link true, .perform 0 false,
    .webStateEvent 0 .controllerForURL]

/-- An immediate request takes the place of the cancellation and destroys the page as well. -/
theorem run_cancelledInTime_replaced :
    ∃ log state, Runs (logged (step phone))
        (fun state input => Accepts phone state.1 input ∧ OnTime state.1 input ∧
          Undropped phone state input)
        (initWithBrowserState true false false, []) log state ∧
      CancelledInTime log state.1 ∧ .scheduleCancel (some 0) 0 ∈ log ∧
      .destroy 0 .cancelled ∈ log ∧ state.1.webState = some 1 := by
  have run : Runs (logged (step phone))
      (fun state input => Accepts phone state.1 input ∧ OnTime state.1 input ∧
        Undropped phone state input)
      (initWithBrowserState true false false, []) _ _ :=
    Runs.replay (needsNativeContent ++
      [.prerenderURL ⟨"http://b/"⟩ ⟨.empty, referrerPolicyDefault⟩ .link true, .perform 0 false,
        .advance 7]) .start (Option.eq_some_of_isSome (by decide +kernel))
  exact ⟨_, _, run, run_cancelledInTime phone true false false _ _ run, by decide +kernel,
    by decide +kernel, by decide +kernel⟩

/-- A delayed request drops the cancellation, and the page is handed out. -/
theorem run_droppedCancel :
    ¬ ∀ log controller, Runs (step phone)
        (fun controller input => Accepts phone controller input ∧ OnTime controller input)
        (initWithBrowserState true false false) log controller →
      CancelledInTime log controller := by
  intro cancelled
  have run : Runs (step phone)
      (fun controller input => Accepts phone controller input ∧ OnTime controller input)
      (initWithBrowserState true false false) _ _ :=
    Runs.replay (needsNativeContent ++
      [.prerenderURL ⟨"http://b/"⟩ ⟨.empty, referrerPolicyDefault⟩ .link false, .advance 7,
        .releasePrerenderContents]) .start (Option.eq_some_of_isSome (by decide +kernel))
  have late := (cancelled _ _ run).released 0 0 7 (by decide +kernel) (by decide +kernel)
  exact absurd late (by decide)

end PreloadController

end ChromiumIos
