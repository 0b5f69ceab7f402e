import ChromiumIos.Navigation.NavigationItem

/-!
# What the navigation managers share

Both navigation managers create their items the same way: the URL is rewritten,
the type of the initiator is recorded, and an item for a native page gets no
user agent.  The user agent of a pending item then follows the option of the
load or an earlier item of the history.
-/

namespace ChromiumIos

open Lib

/-- The marks between which an item's timestamp was given out already. -/
structure TimeSmoother where
  lowWaterMark : Int := 0
  highWaterMark : Int := 0
  deriving DecidableEq, Repr

/-- A time inside the marks is moved one microsecond behind the last one given out. -/
def TimeSmoother.getSmoothedTime (smoother : TimeSmoother) (now : Int) : Int × TimeSmoother :=
  if smoother.lowWaterMark ≤ now ∧ now ≤ smoother.highWaterMark then
    (smoother.highWaterMark + 1,
      { smoother with highWaterMark := smoother.highWaterMark + 1 })
  else
    (now, { lowWaterMark := now, highWaterMark := now })

/-- A rewriter returns the new URL, or nothing when it does not apply. -/
abbrev URLRewriter := GURL → Option GURL

def rewriteURLWithWriters (rewriters : List URLRewriter) (url : GURL) : Option GURL :=
  rewriters.findSome? fun rewriter => rewriter url

/-- The parameters of a load, with the values their constructor gives them. -/
structure WebLoadParams where
  url : GURL
  virtualUrl : GURL := .empty
  referrer : Referrer := ⟨.empty, referrerPolicyDefault⟩
  transitionType : PageTransition := PageTransition.link
  userAgentOverrideOption : UserAgentOverrideOption := .inherit
  isRendererInitiated : Bool := false
  extraHeaders : Option (List (String × String)) := none
  postData : Option String := none
  deriving DecidableEq, Repr

/-- What the copy constructor copies; the virtual URL is not among it. -/
def WebLoadParams.copy (params : WebLoadParams) : WebLoadParams :=
  { params with virtualUrl := .empty }

section

variable (env : NavigationEnvironment)

/-- A page may change its URL within its own origin; both URLs are checked to be valid. -/
def isHistoryStateChangeValid (currentUrl toUrl : GURL) : Checked Bool := do
  dcheck (env.isValid currentUrl)
  dcheck (env.isValid toUrl)
  return env.getOrigin toUrl == env.getOrigin currentUrl

/-- The URL that is loaded for a requested one.  A renderer-initiated load from a
page that is not app-specific is not rewritten to an app-specific URL. -/
def loadedUrl (isPlaceholderUrl : GURL → Bool) (url : GURL)
    (initiationType : NavigationInitiationType) (previousUrl : GURL)
    (additionalRewriters : List URLRewriter) : GURL :=
  let loaded :=
    if isPlaceholderUrl url then
      url
    else
      match rewriteURLWithWriters additionalRewriters url with
      | some rewritten => rewritten
      | none => (env.rewriteURLIfNecessary url).getD url
  if initiationType = .rendererInitiated ∧ loaded ≠ url ∧
      env.isAppSpecificURL loaded ∧ ¬ env.isAppSpecificURL previousUrl then
    url
  else
    loaded

def createNavigationItemWithRewriters (isPlaceholderUrl : GURL → Bool) (url : GURL)
    (referrer : Referrer) (transition : PageTransition)
    (initiationType : NavigationInitiationType) (previousUrl : GURL)
    (additionalRewriters : List URLRewriter) : Checked NavigationItem := do
  let loaded :=
    loadedUrl env isPlaceholderUrl url initiationType previousUrl additionalRewriters
  let item : NavigationItem :=
    { originalRequestUrl := loaded
      url := loaded
      referrer := referrer
      transitionType := transition
      navigationInitiationType := initiationType }
  if env.urlNeedsUserAgentType loaded then
    return item
  else
    item.setUserAgentType env .none

def updatePendingItemUserAgentType (userAgentOverrideOption : UserAgentOverrideOption)
    (inheritFromItem : Option NavigationItem) (pendingItem : NavigationItem) :
    Checked NavigationItem := do
  dcheck (pendingItem.userAgentType ≠ .none ∨ userAgentOverrideOption = .inherit)
  dcheck (pendingItem.userAgentType ≠ .desktop)
  if pendingItem.userAgentType = .none then
    return pendingItem
  else
    match userAgentOverrideOption with
    | .desktop => pendingItem.setUserAgentType env .desktop
    | .mobile => pendingItem.setUserAgentType env .mobile
    | .inherit =>
      match inheritFromItem with
      | none => return pendingItem
      | some item => do
          dcheck (item.userAgentType ≠ .none)
          pendingItem.setUserAgentType env item.userAgentType

end

/-- A new item has the URL that is loaded and the user agent of that URL. -/
theorem createNavigationItemWithRewriters_eq (env : NavigationEnvironment)
    (isPlaceholderUrl : GURL → Bool) (url : GURL) (referrer : Referrer)
    (transition : PageTransition) (initiationType : NavigationInitiationType) (previousUrl : GURL)
    (rewriters : List URLRewriter) {loaded : GURL}
    (loads : loadedUrl env isPlaceholderUrl url initiationType previousUrl rewriters =
      loaded) :
    createNavigationItemWithRewriters env isPlaceholderUrl url referrer transition
      initiationType previousUrl rewriters = some {
        originalRequestUrl := loaded
        url := loaded
        referrer := referrer
        transitionType := transition
        userAgentType := if env.urlNeedsUserAgentType loaded then .mobile else .none
        navigationInitiationType := initiationType } := by
  unfold createNavigationItemWithRewriters
  rw [loads]
  dsimp only
  split
  · rfl
  · next native =>
      simp [NavigationItem.setUserAgentType, GURL.empty, NavigationItem.getVirtualURL, GURL.isEmpty,
        native]

variable {referrer : Referrer} {item : NavigationItem} {transition : PageTransition}
  {rewriters : List URLRewriter} {isPlaceholderUrl : GURL → Bool}
  {env : NavigationEnvironment} {initiationType : NavigationInitiationType}

/-- A new item has the URL that is loaded and, but for its user agent, nothing that it was not
created with. -/
theorem createNavigationItemWithRewriters_cases {url previousUrl : GURL}
    (created : createNavigationItemWithRewriters env isPlaceholderUrl url referrer
      transition initiationType previousUrl rewriters = some item) :
    ∃ userAgentType, userAgentType ≠ .desktop ∧ item = {
      originalRequestUrl :=
        loadedUrl env isPlaceholderUrl url initiationType previousUrl rewriters
      url := loadedUrl env isPlaceholderUrl url initiationType previousUrl rewriters
      referrer := referrer
      transitionType := transition
      userAgentType := userAgentType
      navigationInitiationType := initiationType } := by
  grind [createNavigationItemWithRewriters_eq _ _ _ _ _ _ _ _ rfl]

/-- A new item is recorded with the initiator it was created for. -/
theorem navigationInitiationType_eq {url previousUrl : GURL}
    (created : createNavigationItemWithRewriters env isPlaceholderUrl url referrer
      transition initiationType previousUrl rewriters = some item) :
    item.navigationInitiationType = initiationType := by
  obtain ⟨_, -, rfl⟩ := createNavigationItemWithRewriters_cases created
  rfl

end ChromiumIos
