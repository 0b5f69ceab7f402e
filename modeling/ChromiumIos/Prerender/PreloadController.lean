import ChromiumIos.Lib.Runs
import ChromiumIos.Navigation.NavigationItem

/-!
# The preload controller

The controller prerenders one page in a WebState of its own, after a delay in which the
request may still be replaced.  The delayed start and the cancellations that events of the
prerendered page ask for wait in the queue of the run loop; every operation that replaces
one of them drops all.  Two preferences and, where the second one matters, the type of the
connection decide whether a page may be prerendered at all.

Times are in milliseconds.
-/

namespace ChromiumIos

open Lib

variable (url : GURL)

def kPrerenderDelay : Nat := 500

inductive PrerenderFinalStatus where
  | cancelled
  | memoryLimitExceeded
deriving DecidableEq, Repr

/-- What the run loop is to perform. -/
inductive PreloadSelector where
  | startPrerender
  | cancelPrerender
deriving DecidableEq, Repr

structure PerformRequest where
  selector : PreloadSelector
  due : Nat
deriving DecidableEq, Repr

/-- What the controller does with its WebStates, by their numbers. -/
inductive PreloadEvent where
  | load (webState : Nat) (url : GURL) (referrer : Referrer) (transition : PageTransition)
      (desktopUserAgent : Bool)
  | scheduleCancel (webState : Option Nat) (due : Nat)
  | destroy (webState : Nat) (reason : PrerenderFinalStatus)
  | release (webState : Nat) (time : Nat)
deriving DecidableEq, Repr

/-- What is fixed for a device, and what the controller asks of URLs. -/
structure PrerenderDevice where
  isPrerenderTabEvictionExperimentalGroup : Bool
  isSingleCoreDevice : Bool
  ramIsAtLeast512Mb : Bool
  isValid : GURL → Bool
  schemeIs : GURL → String → Bool
  schemeIs_empty : ∀ scheme, schemeIs .empty scheme = false

/-- The preferences, the type of the connection and the clock stand beside the fields of the
controller. -/
structure PreloadController where
  networkPredictionEnabled : Bool
  networkPredictionWifiOnly : Bool
  isConnectionCellular : Bool
  now : Nat := 0
  nextWebState : Nat := 0
  webState : Option Nat := none
  prerenderedURL : GURL := .empty
  scheduledURL : GURL := .empty
  scheduledTransition : PageTransition := PageTransition.link
  scheduledReferrer : Referrer := ⟨.empty, referrerPolicyDefault⟩
  connectionTypeObserver : Bool
  enabled : Bool
  wifiOnly : Bool
  usingWWAN : Bool
  successfulPrerendersPerSessionCount : Nat := 0
  startTime : Option Nat := none
  performRequests : List PerformRequest := []
deriving DecidableEq, Repr

namespace PreloadController

abbrev Outcome := PreloadController × List PreloadEvent

def initWithBrowserState (networkPredictionEnabled networkPredictionWifiOnly : Bool)
    (isConnectionCellular : Bool) : PreloadController where
  networkPredictionEnabled := networkPredictionEnabled
  networkPredictionWifiOnly := networkPredictionWifiOnly
  isConnectionCellular := isConnectionCellular
  enabled := networkPredictionEnabled
  wifiOnly := networkPredictionWifiOnly
  usingWWAN := isConnectionCellular
  connectionTypeObserver := networkPredictionEnabled && networkPredictionWifiOnly

section Controller

variable (device : PrerenderDevice) (controller : PreloadController)

def performAfterDelay (selector : PreloadSelector) (delay : Nat) : PreloadController :=
  { controller with
    performRequests := controller.performRequests ++ [⟨selector, controller.now + delay⟩] }

def removeScheduledPrerenderRequests : PreloadController :=
  { controller with performRequests := [], scheduledURL := .empty }

def destroyPreviewContents (reason : PrerenderFinalStatus) : Outcome :=
  match controller.webState with
  | none => (controller, [])
  | some webState =>
    ({ controller with webState := none, prerenderedURL := .empty, startTime := none },
      [.destroy webState reason])

def cancelPrerenderForReason (reason : PrerenderFinalStatus) : Outcome :=
  controller.removeScheduledPrerenderRequests.destroyPreviewContents reason

def cancelPrerender : Outcome := controller.cancelPrerenderForReason .cancelled

def schedulePrerenderCancel : Outcome :=
  (controller.removeScheduledPrerenderRequests.performAfterDelay .cancelPrerender 0,
    [.scheduleCancel controller.webState controller.now])

def isPrerenderingEnabled : Bool :=
  !device.isPrerenderTabEvictionExperimentalGroup && controller.enabled &&
    !device.isSingleCoreDevice && device.ramIsAtLeast512Mb &&
    (!controller.wifiOnly || !controller.usingWWAN)

def shouldPreloadURL : Bool := device.schemeIs url "http" || device.schemeIs url "https"

/-- The request is taken, unless there is one for the same URL already. -/
def isAccepted (url : GURL) : Bool :=
  controller.isPrerenderingEnabled device && shouldPreloadURL url device &&
    !(url == controller.scheduledURL ||
      (controller.scheduledURL.isEmpty && url == controller.prerenderedURL))

def prerenderURL (url : GURL) (referrer : Referrer) (transition : PageTransition)
    (immediately : Bool) : PreloadController :=
  if controller.isAccepted device url then
    let scheduled := { controller.removeScheduledPrerenderRequests with
      scheduledURL := url
      scheduledTransition := transition
      scheduledReferrer := referrer }
    scheduled.performAfterDelay .startPrerender (if immediately then 0 else kPrerenderDelay)
  else controller

/-- The metrics need a start time. -/
def releasePrerenderContents : Checked Outcome := do
  dcheck controller.startTime.isSome
  let released := { controller.removeScheduledPrerenderRequests with
    successfulPrerendersPerSessionCount := controller.successfulPrerendersPerSessionCount + 1
    prerenderedURL := .empty
    startTime := none }
  match controller.webState with
  | none => return (released, [])
  | some webState =>
    return ({ released with webState := none }, [.release webState controller.now])

def startPrerender (desktopUserAgent : Bool) : Checked Outcome := do
  let (destroyed, events) := controller.destroyPreviewContents .cancelled
  let taken := { destroyed with
    prerenderedURL := destroyed.scheduledURL
    scheduledURL := .empty }
  dcheck (device.isValid taken.prerenderedURL)
  let webState := taken.nextWebState
  return ({ taken with
      webState := some webState
      nextWebState := webState + 1
      startTime := some taken.now },
    events ++ [.load webState taken.prerenderedURL taken.scheduledReferrer
      taken.scheduledTransition desktopUserAgent])

/-! ## Preferences and the connection -/

def connectionTypeChanged (cellular : Bool) : Outcome :=
  let told := { controller with usingWWAN := cellular }
  if told.wifiOnly && told.usingWWAN then told.cancelPrerender else (told, [])

def readPreferences : PreloadController :=
  { controller with
    enabled := controller.networkPredictionEnabled
    wifiOnly := controller.networkPredictionWifiOnly }

def watchConnection : PreloadController :=
  if controller.connectionTypeObserver then controller
  else { controller with
    usingWWAN := controller.isConnectionCellular
    connectionTypeObserver := true }

def stopWatching : PreloadController := { controller with connectionTypeObserver := false }

/-- Both preferences are read anew; the connection is watched when it matters. -/
def onPreferenceChanged : Outcome :=
  let read := controller.readPreferences
  if read.wifiOnly && read.enabled then
    let watching := read.watchConnection
    if watching.usingWWAN then watching.cancelPrerender else (watching, [])
  else if read.enabled then (read.stopWatching, [])
  else
    let (cancelled, events) := read.cancelPrerender
    (cancelled.stopWatching, events)

def withPreferences (networkPredictionEnabled networkPredictionWifiOnly : Bool) :
    PreloadController :=
  { controller with networkPredictionEnabled, networkPredictionWifiOnly }

/-- The controller is told of a preference that gets another value. -/
def setPreferences (networkPredictionEnabled networkPredictionWifiOnly : Bool) : Outcome :=
  if networkPredictionEnabled = controller.networkPredictionEnabled ∧
      networkPredictionWifiOnly = controller.networkPredictionWifiOnly then (controller, [])
  else
    (controller.withPreferences networkPredictionEnabled
      networkPredictionWifiOnly).onPreferenceChanged

def changeConnection (cellular : Bool) : Outcome :=
  let changed := { controller with isConnectionCellular := cellular }
  if changed.connectionTypeObserver then changed.connectionTypeChanged cellular
  else (changed, [])

/-! ## Events of the prerendered WebState -/

inductive WebStateEvent where
  | controllerForURL
  | createNewWebState
  | javaScriptDialogPresenter
  | didRequestHTTPAuth
  | didLoadPage (mimeType : String)
  | onManageAccounts
  | onAddAccount
  | onGoIncognito
  | shouldAllowRequest (isAppUrl iTunesCanHandleUrl : Bool)
deriving DecidableEq, Repr

def isWebStatePrerendered (webState : Nat) : Bool := controller.webState == some webState

def webStateEvent (webState : Nat) : WebStateEvent → Checked Outcome
  | .createNewWebState | .javaScriptDialogPresenter | .didRequestHTTPAuth => do
      dcheck (controller.isWebStatePrerendered webState)
      return controller.schedulePrerenderCancel
  | .didLoadPage mimeType => do
      dcheck (controller.isWebStatePrerendered webState)
      return if mimeType = "application/octet-stream" then controller.schedulePrerenderCancel
        else (controller, [])
  | .shouldAllowRequest isAppUrl iTunesCanHandleUrl =>
    some (if isAppUrl || iTunesCanHandleUrl then controller.schedulePrerenderCancel
      else (controller, []))
  | .controllerForURL | .onManageAccounts | .onAddAccount | .onGoIncognito =>
    some controller.schedulePrerenderCancel

end Controller

/-- The run loop performs a request, and time passes. -/
inductive Input where
  | prerenderURL (url : GURL) (referrer : Referrer) (transition : PageTransition)
      (immediately : Bool)
  | cancelPrerender
  | releasePrerenderContents
  | setNetworkPredictionEnabled (value : Bool)
  | setNetworkPredictionWifiOnly (value : Bool)
  | changeConnection (cellular : Bool)
  | didReceiveMemoryWarning
  | webStateEvent (webState : Nat) (event : WebStateEvent)
  | perform (position : Nat) (desktopUserAgent : Bool)
  | advance (time : Nat)
deriving DecidableEq, Repr

section Step

variable (device : PrerenderDevice) (controller : PreloadController)

def performSelector (desktopUserAgent : Bool) : PreloadSelector → Checked Outcome
  | .startPrerender => controller.startPrerender device desktopUserAgent
  | .cancelPrerender => some controller.cancelPrerender

def performRequest (position : Nat) (desktopUserAgent : Bool) : Checked Outcome := do
  let request ← controller.performRequests[position]?
  let taken :=
    { controller with performRequests := controller.performRequests.eraseIdx position }
  taken.performSelector device desktopUserAgent request.selector

def step : Input → Checked Outcome
  | .prerenderURL url referrer transition immediately =>
    some (controller.prerenderURL device url referrer transition immediately, [])
  | .cancelPrerender => some controller.cancelPrerender
  | .releasePrerenderContents => controller.releasePrerenderContents
  | .setNetworkPredictionEnabled value =>
    some (controller.setPreferences value controller.networkPredictionWifiOnly)
  | .setNetworkPredictionWifiOnly value =>
    some (controller.setPreferences controller.networkPredictionEnabled value)
  | .changeConnection cellular => some (controller.changeConnection cellular)
  | .didReceiveMemoryWarning => some (controller.cancelPrerenderForReason .memoryLimitExceeded)
  | .webStateEvent webState event => controller.webStateEvent webState event
  | .perform position desktopUserAgent => controller.performRequest device position desktopUserAgent
  | .advance time => some ({ controller with now := time }, [])

/-- URLs are valid, a WebState is released while there is one, and the events are those of the
prerendered WebState. -/
def Accepts : Input → Prop
  | .prerenderURL url _ _ _ => device.isValid url = true
  | .releasePrerenderContents => controller.webState.isSome = true
  | .webStateEvent webState _ => controller.webState = some webState
  | .perform position _ => position < controller.performRequests.length
  | .advance time => controller.now ≤ time
  | _ => True

/-- The run loop performs a request as soon as it is due, and not before. -/
def OnTime : Input → Prop
  | .perform position _ => ∀ request ∈ controller.performRequests[position]?,
      request.due ≤ controller.now
  | .advance time => ∀ request ∈ controller.performRequests, time ≤ request.due
  | _ => True

end Step

/-! ## The controller between two events -/

section Invariant

variable {device : PrerenderDevice} {controller after : PreloadController}
variable {events : List PreloadEvent}

variable (device) in
/-- At most one request is pending; a URL is scheduled exactly when it is a start. -/
inductive Queue : List PerformRequest → GURL → Prop where
  | idle : Queue [] .empty
  | cancel (due : Nat) : Queue [⟨.cancelPrerender, due⟩] .empty
  | start {url : GURL} (due : Nat) (nonempty : url ≠ .empty) (valid : device.isValid url = true) :
      Queue [⟨.startPrerender, due⟩] url

structure Page (controller : PreloadController) : Prop where
  prerendered : controller.prerenderedURL = .empty ↔ controller.webState = none
  started : controller.startTime = none ↔ controller.webState = none

/-- The preferences are known, and the connection is where it matters. -/
structure Watch (controller : PreloadController) : Prop where
  enabled : controller.enabled = controller.networkPredictionEnabled
  wifiOnly : controller.wifiOnly = controller.networkPredictionWifiOnly
  observes : controller.connectionTypeObserver =
    (controller.networkPredictionEnabled && controller.networkPredictionWifiOnly)
  current : controller.connectionTypeObserver = true →
    controller.usingWWAN = controller.isConnectionCellular

/-- Nothing may be prerendered. -/
def IsRestricted (controller : PreloadController) : Prop :=
  controller.networkPredictionEnabled = false ∨
    (controller.networkPredictionWifiOnly = true ∧ controller.isConnectionCellular = true)

variable (device) in
structure Sound (controller : PreloadController) : Prop where
  queue : Queue device controller.performRequests controller.scheduledURL
  page : Page controller
  watch : Watch controller
  allowed : IsRestricted controller →
    controller.scheduledURL = .empty ∧ controller.webState = none

/-- The controller when nothing is scheduled and nothing prerendered. -/
def idle (controller : PreloadController) : PreloadController :=
  { controller with
    performRequests := []
    scheduledURL := .empty
    webState := none
    prerenderedURL := .empty
    startTime := none }

theorem cancelPrerenderForReason_eq (page : Page controller) (reason : PrerenderFinalStatus) :
    (controller.cancelPrerenderForReason reason).1 = controller.idle := by
  unfold cancelPrerenderForReason destroyPreviewContents
  cases prerendering : controller.removeScheduledPrerenderRequests.webState with
  | none =>
    have none : controller.webState = none := prerendering
    have empty := page.prerendered.mpr none
    have unstarted := page.started.mpr none
    simp only [removeScheduledPrerenderRequests, idle, none, empty, unstarted]
  | some _ => rfl

theorem Watch.idle (watch : Watch controller) : Watch controller.idle :=
  ⟨watch.enabled, watch.wifiOnly, watch.observes, watch.current⟩

/-- Whatever the preferences and the connection, nothing is wrong with an idle controller. -/
theorem sound_idle (watch : Watch controller) : Sound device controller.idle where
  queue := .idle
  page := ⟨Iff.intro (fun _ => rfl) fun _ => rfl, Iff.intro (fun _ => rfl) fun _ => rfl⟩
  watch := watch.idle
  allowed _ := ⟨rfl, rfl⟩

theorem Sound.cancelPrerenderForReason (sound : Sound device controller)
    (reason : PrerenderFinalStatus) :
    Sound device (controller.cancelPrerenderForReason reason).1 := by
  rw [cancelPrerenderForReason_eq sound.page]
  exact sound_idle sound.watch

variable {url : GURL}

theorem ne_empty_of_shouldPreloadURL (preloads : shouldPreloadURL url device = true) :
    url ≠ .empty := by
  rintro rfl
  simp [shouldPreloadURL, device.schemeIs_empty] at preloads

/-- What is not watched does not matter. -/
theorem Watch.not_restricted (watch : Watch controller)
    (enabled : controller.isPrerenderingEnabled device = true) : ¬ IsRestricted controller := by
  simp only [isPrerenderingEnabled, Bool.and_eq_true, Bool.or_eq_true, Bool.not_eq_true'] at enabled
  obtain ⟨⟨⟨⟨-, isEnabled⟩, -⟩, -⟩, connection⟩ := enabled
  rintro (disabled | ⟨wifiOnly, cellular⟩)
  · simp [watch.enabled, disabled] at isEnabled
  · grind [watch.wifiOnly, watch.observes, watch.enabled, watch.current]

theorem Sound.prerenderURL {url : GURL} {referrer : Referrer} {transition : PageTransition}
    {immediately : Bool} (sound : Sound device controller) (valid : device.isValid url = true) :
    Sound device (controller.prerenderURL device url referrer transition immediately) := by
  unfold PreloadController.prerenderURL
  split
  · next accepted =>
      simp only [isAccepted, Bool.and_eq_true] at accepted
      obtain ⟨⟨enabled, preloads⟩, -⟩ := accepted
      refine ⟨?_, ⟨sound.page.prerendered, sound.page.started⟩,
        ⟨sound.watch.enabled, sound.watch.wifiOnly, sound.watch.observes, sound.watch.current⟩,
        fun restricted => absurd restricted (sound.watch.not_restricted enabled)⟩
      exact .start _ (ne_empty_of_shouldPreloadURL preloads) valid
  · exact sound

theorem Sound.schedulePrerenderCancel (sound : Sound device controller) :
    Sound device controller.schedulePrerenderCancel.1 where
  queue := .cancel _
  page := ⟨sound.page.prerendered, sound.page.started⟩
  watch := ⟨sound.watch.enabled, sound.watch.wifiOnly, sound.watch.observes, sound.watch.current⟩
  allowed restricted := ⟨rfl, (sound.allowed restricted).2⟩

theorem Sound.releasePrerenderContents (sound : Sound device controller)
    (released : controller.releasePrerenderContents = some (after, events)) :
    Sound device after := by
  obtain ⟨-, released⟩ := dcheck_then released
  have idle : after = { controller.idle with
      successfulPrerendersPerSessionCount :=
        controller.successfulPrerendersPerSessionCount + 1 } := by
    cases prerendering : controller.webState with
    | none =>
      rw [prerendering] at released
      cases released
      simp only [removeScheduledPrerenderRequests, PreloadController.idle, prerendering]
    | some _ =>
      rw [prerendering] at released
      cases released
      rfl
  have soundIdle : Sound device controller.idle := sound_idle sound.watch
  rw [idle]
  exact ⟨.idle, ⟨soundIdle.page.prerendered, soundIdle.page.started⟩,
    ⟨sound.watch.enabled, sound.watch.wifiOnly, sound.watch.observes, sound.watch.current⟩,
    fun _ => ⟨rfl, rfl⟩⟩

theorem destroyPreviewContents_eq (controller : PreloadController)
    (reason : PrerenderFinalStatus) :
    ∃ url time, controller.destroyPreviewContents reason =
      ({ controller with webState := none, prerenderedURL := url, startTime := time },
        controller.webState.toList.map fun webState => .destroy webState reason) := by
  unfold destroyPreviewContents
  cases prerendering : controller.webState with
  | none =>
    have same : { controller with webState := none } = controller := by rw [← prerendering]
    grind
  | some _ => exact ⟨.empty, none, rfl⟩

/-- The WebState before is destroyed and a new one loads the scheduled URL. -/
theorem startPrerender_eq (controller : PreloadController) (desktopUserAgent : Bool)
    (valid : device.isValid controller.scheduledURL = true) :
    controller.startPrerender device desktopUserAgent =
      some ({ controller with
          webState := some controller.nextWebState
          nextWebState := controller.nextWebState + 1
          prerenderedURL := controller.scheduledURL
          scheduledURL := .empty
          startTime := some controller.now },
        (controller.webState.toList.map fun webState => .destroy webState .cancelled) ++
          [.load controller.nextWebState controller.scheduledURL controller.scheduledReferrer
            controller.scheduledTransition desktopUserAgent]) := by
  obtain ⟨_, _, destroyed⟩ := destroyPreviewContents_eq controller .cancelled
  simp [startPrerender, destroyed, dcheck_of valid]

/-- A start that is performed has a URL, which is prerendered from then on. -/
theorem Sound.performRequest {position : Nat} (sound : Sound device controller)
    (desktopUserAgent : Bool) (bound : position < controller.performRequests.length) :
    ∃ events after,
      controller.performRequest device position desktopUserAgent = some (after, events) ∧
      Sound device after := by
  have queue := sound.queue
  unfold PreloadController.performRequest
  generalize pending : controller.performRequests = requests at queue bound ⊢
  generalize scheduled : controller.scheduledURL = url at queue
  cases queue with
  | idle => cases bound
  | cancel _ =>
    cases Nat.lt_one_iff.mp bound
    refine ⟨_, _, rfl, ?_⟩
    exact sound.cancelPrerenderForReason _
  | start _ nonempty valid =>
    cases Nat.lt_one_iff.mp bound
    subst scheduled
    refine ⟨_, _, startPrerender_eq { controller with performRequests := [] } desktopUserAgent
      valid, .idle, ⟨?_, ?_⟩,
      ⟨sound.watch.enabled, sound.watch.wifiOnly, sound.watch.observes, sound.watch.current⟩,
      fun restricted => absurd (sound.allowed restricted).1 nonempty⟩
    · simp [nonempty]
    · exact ⟨nofun, nofun⟩

theorem Sound.changeConnection (sound : Sound device controller) (cellular : Bool) :
    Sound device (controller.changeConnection cellular).1 := by
  unfold PreloadController.changeConnection connectionTypeChanged
  dsimp only
  have page : Page { controller with isConnectionCellular := cellular, usingWWAN := cellular } :=
    ⟨sound.page.prerendered, sound.page.started⟩
  have watch : Watch { controller with isConnectionCellular := cellular, usingWWAN := cellular } :=
    ⟨sound.watch.enabled, sound.watch.wifiOnly, sound.watch.observes, fun _ => rfl⟩
  split
  · split
    · rw [cancelPrerender, cancelPrerenderForReason_eq page]
      exact sound_idle watch
    · next unrestricted =>
        refine ⟨sound.queue, page, watch, fun restricted => ?_⟩
        rcases restricted with disabled | ⟨wifiOnly, isCellular⟩
        · exact sound.allowed (.inl disabled)
        · grind [sound.watch.wifiOnly]
  · next unobserved =>
      refine ⟨sound.queue, ⟨sound.page.prerendered, sound.page.started⟩,
        ⟨sound.watch.enabled, sound.watch.wifiOnly, sound.watch.observes,
          fun observes => absurd observes unobserved⟩, fun restricted => sound.allowed (.inl ?_)⟩
      rcases restricted with disabled | ⟨wifiOnly, -⟩ <;> grind [sound.watch.observes]

/-- A controller that watches the connection prerenders nothing on a cellular one. -/
theorem sound_watching {watching : PreloadController}
    (queue : Queue device watching.performRequests watching.scheduledURL) (page : Page watching)
    (watch : Watch watching) (observes : watching.connectionTypeObserver = true) :
    Sound device (if watching.usingWWAN then watching.cancelPrerender else (watching, [])).1 := by
  split
  · rw [cancelPrerender, cancelPrerenderForReason_eq page]
    exact sound_idle watch
  · next wifi =>
      have both := watch.observes.symm.trans observes
      have enabled := (Bool.and_eq_true_iff.mp both).1
      refine ⟨queue, page, watch, fun restricted => ?_⟩
      rcases restricted with disabled | ⟨-, cellular⟩ <;> grind [watch.current]

/-- After a change of the preferences the connection is watched exactly when it matters. -/
theorem Sound.onPreferenceChanged (sound : Sound device controller)
    (networkPredictionEnabled networkPredictionWifiOnly : Bool) :
    Sound device (controller.withPreferences networkPredictionEnabled
      networkPredictionWifiOnly).onPreferenceChanged.1 := by
  have page : Page (controller.withPreferences networkPredictionEnabled
      networkPredictionWifiOnly).readPreferences :=
    ⟨sound.page.prerendered, sound.page.started⟩
  unfold PreloadController.onPreferenceChanged
  dsimp only
  split
  · next watched =>
      obtain ⟨wifiOnly, enabled⟩ := Bool.and_eq_true_iff.mp watched
      subst wifiOnly enabled
      unfold watchConnection
      split
      · next observes =>
          exact sound_watching sound.queue page
            ⟨rfl, rfl, observes, fun _ => sound.watch.current observes⟩ observes
      · exact sound_watching sound.queue ⟨page.prerendered, page.started⟩
          ⟨rfl, rfl, rfl, fun _ => rfl⟩ rfl
  · next unwatched =>
      split
      · next enabled =>
          subst enabled
          change ¬ (networkPredictionWifiOnly && true) = true at unwatched
          rw [Bool.and_true] at unwatched
          have wifiOnly := Bool.eq_false_iff.mpr unwatched
          subst wifiOnly
          refine ⟨sound.queue, ⟨page.prerendered, page.started⟩, ⟨rfl, rfl, rfl, nofun⟩,
            fun restricted => ?_⟩
          rcases restricted with disabled | ⟨wifiOnly, -⟩
          · cases disabled
          · cases wifiOnly
      · next disabled =>
          have disabled := Bool.eq_false_iff.mpr disabled
          subst disabled
          rw [cancelPrerender, cancelPrerenderForReason_eq page]
          refine ⟨.idle, ⟨?_, ?_⟩, ⟨rfl, rfl, rfl, nofun⟩, fun _ => ⟨rfl, rfl⟩⟩
          · simp [stopWatching, idle]
          · rfl

theorem Sound.setPreferences (sound : Sound device controller)
    (networkPredictionEnabled networkPredictionWifiOnly : Bool) :
    Sound device (controller.setPreferences networkPredictionEnabled
      networkPredictionWifiOnly).1 := by
  unfold PreloadController.setPreferences
  split <;> grind [sound.onPreferenceChanged]

/-- An event of the prerendered WebState cancels it, or does nothing. -/
theorem webStateEvent_cases {webState : Nat} {event : WebStateEvent}
    (told : controller.webStateEvent webState event = some (after, events)) :
    (after, events) = controller.schedulePrerenderCancel ∨ (after = controller ∧ events = []) := by
  cases event with
  | controllerForURL | onManageAccounts | onAddAccount | onGoIncognito =>
    exact .inl (Option.some.inj told).symm
  | createNewWebState | javaScriptDialogPresenter | didRequestHTTPAuth =>
    obtain ⟨-, told⟩ := dcheck_then told
    grind
  | didLoadPage _ =>
    obtain ⟨-, told⟩ := dcheck_then told
    grind
  | shouldAllowRequest _ _ =>
    have told := Option.some.inj told
    grind

variable {input : Input}

/-- Every event leaves the controller sound. -/
theorem Sound.step (sound : Sound device controller) (accepted : Accepts device controller input)
    (stepped : controller.step device input = some (after, events)) : Sound device after := by
  cases input with
  | prerenderURL _ _ _ _ =>
    cases stepped
    exact sound.prerenderURL accepted
  | cancelPrerender | didReceiveMemoryWarning =>
    rw [← show _ = after from congrArg Prod.fst (Option.some.inj stepped)]
    exact sound.cancelPrerenderForReason _
  | releasePrerenderContents => exact sound.releasePrerenderContents stepped
  | setNetworkPredictionEnabled value | setNetworkPredictionWifiOnly value =>
    rw [← show _ = after from congrArg Prod.fst (Option.some.inj stepped)]
    exact sound.setPreferences _ _
  | changeConnection _ =>
    simp [← show _ = after from congrArg Prod.fst (Option.some.inj stepped), sound.changeConnection]
  | webStateEvent _ _ =>
    rcases webStateEvent_cases stepped with scheduled | ⟨rfl, -⟩
    · rw [show after = _ from congrArg Prod.fst scheduled]
      exact sound.schedulePrerenderCancel
    · exact sound
  | perform _ desktopUserAgent =>
    obtain ⟨_, _, performed, soundNext⟩ :=
      sound.performRequest desktopUserAgent accepted
    cases stepped.symm.trans performed
    exact soundNext
  | advance _ =>
    cases stepped
    exact ⟨sound.queue, ⟨sound.page.prerendered, sound.page.started⟩,
      ⟨sound.watch.enabled, sound.watch.wifiOnly, sound.watch.observes, sound.watch.current⟩,
      sound.allowed⟩

theorem Sound.isSome_step (sound : Sound device controller)
    (accepted : Accepts device controller input) : (controller.step device input).isSome := by
  cases input with
  | releasePrerenderContents =>
    have started : controller.startTime.isSome = true := by
      rw [Option.isSome_iff_ne_none]
      exact fun unstarted =>
        Option.isSome_iff_ne_none.mp accepted (sound.page.started.mp unstarted)
    grind [PreloadController.step, PreloadController.releasePrerenderContents, dcheck_of started]
  | webStateEvent webState event =>
    have own : controller.isWebStatePrerendered webState = true := beq_iff_eq.mpr accepted
    cases event <;> simp [PreloadController.step, PreloadController.webStateEvent, dcheck_of own]
  | perform _ desktopUserAgent =>
    obtain ⟨_, _, performed, -⟩ :=
      sound.performRequest desktopUserAgent accepted
    exact Option.isSome_of_eq_some performed
  | prerenderURL _ _ _ _ | cancelPrerender | setNetworkPredictionEnabled _
  | setNetworkPredictionWifiOnly _ | changeConnection _ | didReceiveMemoryWarning
  | advance _ => rfl

variable (device) in
/-- What holds of the controller after every event. -/
structure Coherent (controller : PreloadController) : Prop where
  prerendered : controller.prerenderedURL ≠ .empty ↔ controller.webState.isSome = true
  scheduled : controller.scheduledURL ≠ .empty ↔
    ∃ request ∈ controller.performRequests, request.selector = .startPrerender
  single : controller.performRequests.length ≤ 1
  restricted : controller.networkPredictionEnabled = false ∨
      (controller.networkPredictionWifiOnly = true ∧ controller.isConnectionCellular = true) →
    controller.scheduledURL = .empty ∧
      (∀ request ∈ controller.performRequests, request.selector ≠ .startPrerender) ∧
      controller.webState = none
  asserted : ∀ input, Accepts device controller input → (controller.step device input).isSome

theorem Queue.scheduled {requests : List PerformRequest} (queue : Queue device requests url) :
    (url ≠ .empty ↔ ∃ request ∈ requests, request.selector = .startPrerender) ∧
      requests.length ≤ 1 := by
  cases queue with
  | idle => simp
  | cancel _ =>
    simp
  | start _ nonempty _ =>
    simp [nonempty]

theorem Sound.coherent (sound : Sound device controller) : Coherent device controller where
  prerendered := by
    simp [Option.isSome_iff_ne_none, sound.page.prerendered]
  scheduled := sound.queue.scheduled.1
  single := sound.queue.scheduled.2
  restricted isRestricted := by
    obtain ⟨unscheduled, none⟩ := sound.allowed isRestricted
    grind [sound.queue.scheduled]
  asserted _ accepted := sound.isSome_step accepted

theorem watch_init (networkPredictionEnabled networkPredictionWifiOnly : Bool)
    (isConnectionCellular : Bool) :
    Watch (initWithBrowserState networkPredictionEnabled networkPredictionWifiOnly
      isConnectionCellular) :=
  ⟨rfl, rfl, rfl, fun _ => rfl⟩

/-- Whatever happens in whatever order, what is scheduled and prerendered is what the fields say
it is, and allowed. -/
theorem run_coherent (device : PrerenderDevice)
    (networkPredictionEnabled networkPredictionWifiOnly isConnectionCellular : Bool)
    (log : List PreloadEvent) (controller : PreloadController)
    (run : Runs (PreloadController.step device) (Accepts device)
      (initWithBrowserState networkPredictionEnabled networkPredictionWifiOnly
        isConnectionCellular) log controller) :
    Coherent device controller := by
  have sound : Sound device controller := by
    refine run.invariant (Sound device) (sound_idle (watch_init _ _ _)) ?_
    exact fun sound accepted stepped => sound.step accepted stepped
  exact sound.coherent

end Invariant

instance (device : PrerenderDevice) (controller : PreloadController) (input : Input) :
    Decidable (Accepts device controller input) :=
  match input with
  | .prerenderURL url _ _ _ => inferInstanceAs (Decidable (device.isValid url = true))
  | .releasePrerenderContents => inferInstanceAs (Decidable (controller.webState.isSome = true))
  | .webStateEvent webState _ => inferInstanceAs (Decidable (controller.webState = some webState))
  | .perform position _ =>
    inferInstanceAs (Decidable (position < controller.performRequests.length))
  | .advance time => inferInstanceAs (Decidable (controller.now ≤ time))
  | .cancelPrerender | .setNetworkPredictionEnabled _ | .setNetworkPredictionWifiOnly _
  | .changeConnection _ | .didReceiveMemoryWarning => isTrue trivial

def textHasScheme (url : GURL) (scheme : String) : Bool :=
  (scheme.toList ++ [':']).isPrefixOf url.spec.toList

theorem textHasScheme_empty (scheme : String) : textHasScheme .empty scheme = false := by
  simp [textHasScheme, GURL.empty]

def phone : PrerenderDevice where
  isPrerenderTabEvictionExperimentalGroup := false
  isSingleCoreDevice := false
  ramIsAtLeast512Mb := true
  isValid _ := true
  schemeIs := textHasScheme
  schemeIs_empty := textHasScheme_empty

/-- The connection changes unwatched, and is looked at when prerendering becomes wifi-only. -/
theorem run_coherent_staleConnection :
    ∃ log controller, Runs (step phone) (Accepts phone) (initWithBrowserState true false false)
        log controller ∧
      Coherent phone controller ∧ log.length = 2 ∧ controller.usingWWAN = true ∧
      controller.webState = none := by
  have run : Runs (step phone) (Accepts phone) (initWithBrowserState true false false) _ _ :=
    Runs.replay [.prerenderURL ⟨"http://a/"⟩ ⟨.empty, referrerPolicyDefault⟩ .link true,
      .perform 0 false, .changeConnection true, .setNetworkPredictionWifiOnly true]
      .start (Option.eq_some_of_isSome (by decide +kernel))
  exact ⟨_, _, run, run_coherent phone true false false _ _ run, by decide +kernel,
    by decide +kernel, by decide +kernel⟩

end PreloadController

end ChromiumIos
