import ChromiumIos.Lib.Checked

/-!
# The pages that are distilled

Two seconds after a page is loaded, it is distilled, but for two workarounds.  A page
of the AMP cache shows its article in another page, which is loaded in its place; a
page of Wikipedia is changed by a script before it is distilled.
-/

namespace ChromiumIos

/-- What the distiller page asks of a URL.  The path of a valid URL with the scheme https begins
with a slash. -/
structure DistillerUrls (Url : Type) where
  isValid : Url → Bool
  schemeIs : Url → String → Bool
  host : Url → List Char
  path : Url → List Char
  /-- Neither subdomains nor ports that are not standard are allowed. -/
  isGoogleDomainUrl : Url → Bool
  path_of_https : ∀ url, isValid url = true → schemeIs url "https" = true →
    ['/'] <+: path url

structure DistillerSSLStatus where
  hasCertificate : Bool
  isCertStatusError : Bool
  isCertStatusMinorError : Bool
deriving DecidableEq, Repr

def DistillerSSLStatus.IsSound (status : DistillerSSLStatus) : Prop :=
  status.hasCertificate = true ∧
    ¬ (status.isCertStatusError = true ∧ status.isCertStatusMinorError = false)

structure DistilledWebState (Url : Type) where
  lastCommittedURL : Url
  visibleURL : Url
  ssl : DistillerSSLStatus
deriving DecidableEq, Repr

inductive Workaround where
  | getIframeURL
  | wikipedia
deriving DecidableEq, Repr

inductive DistillerAction (Url : Type) where
  | executeJavaScript (script : Workaround)
  | distilledPageRedirectedToURL (originalUrl finalUrl : Url)
  /-- The page that is loaded is distilled. -/
  | onLoadURLDone
deriving DecidableEq, Repr

structure ReadingListDistillerPage (Url : Type) where
  originalUrl : Url
  distillingMainPage : Bool
  delayedTaskId : Int
  currentWebState : Option (DistilledWebState Url)

variable {Url : Type}

namespace DistilledWebState

variable (urls : DistillerUrls Url) (webState : DistilledWebState Url)

def isGoogleCachedAMPPage : Bool :=
  let url := webState.lastCommittedURL
  if !urls.isValid url || !urls.schemeIs url "https" then false
  -- the comparison is zero, and its negation true, if the text is found
  else if !urls.isGoogleDomainUrl url || (urls.path url).take 4 = "amp/".toList then false
  else if !webState.ssl.hasCertificate ||
      (webState.ssl.isCertStatusError && !webState.ssl.isCertStatusMinorError) then false
  else true

def isWikipediaPage : Bool :=
  let url := webState.lastCommittedURL
  if !urls.isValid url || !urls.schemeIs url "https" then false
  else ".m.wikipedia.org".toList.isSuffixOf (urls.host url)

def IsTrustedGooglePage : Prop :=
  urls.isValid webState.lastCommittedURL = true ∧
    urls.schemeIs webState.lastCommittedURL "https" = true ∧
    urls.isGoogleDomainUrl webState.lastCommittedURL = true ∧ webState.ssl.IsSound

def HasAMPPath : Prop :=
  "/amp/".toList <+: urls.path webState.lastCommittedURL
deriving Decidable

variable {urls : DistillerUrls Url} {webState : DistilledWebState Url}

/-- A path that begins with a slash does not begin with the text it is compared with, so that all
pages of the domain pass. -/
theorem isGoogleCachedAMPPage_iff :
    webState.isGoogleCachedAMPPage urls = true ↔ webState.IsTrustedGooglePage urls := by
  have slash : urls.isValid webState.lastCommittedURL = true →
      urls.schemeIs webState.lastCommittedURL "https" = true →
        (urls.path webState.lastCommittedURL).take 4 ≠ ['a', 'm', 'p', '/'] := by
    intro valid https
    obtain ⟨rest, same⟩ := urls.path_of_https _ valid https
    simp [← same]
  unfold isGoogleCachedAMPPage IsTrustedGooglePage DistillerSSLStatus.IsSound
  grind

end DistilledWebState

namespace ReadingListDistillerPage

variable [DecidableEq Url]

def continuePageDistillation (page : ReadingListDistillerPage Url) :
    List (DistillerAction Url) :=
  match page.currentWebState with
  | none => []
  | some webState =>
    if webState.visibleURL ≠ page.originalUrl ∧ page.distillingMainPage then
      [.distilledPageRedirectedToURL page.originalUrl webState.visibleURL, .onLoadURLDone]
    else [.onLoadURLDone]

variable (urls : DistillerUrls Url) (page : ReadingListDistillerPage Url)

def delayedOnLoadURLDone (delayedTaskId : Int) : List (DistillerAction Url) :=
  match page.currentWebState with
  | none => []
  | some webState =>
    if delayedTaskId ≠ page.delayedTaskId then []
    else if webState.isGoogleCachedAMPPage urls then [.executeJavaScript .getIframeURL]
    else if webState.isWikipediaPage urls then [.executeJavaScript .wikipedia]
    else page.continuePageDistillation

def DistillsLoadedPage (delayedTaskId : Int) : Prop :=
  page.delayedOnLoadURLDone urls delayedTaskId = page.continuePageDistillation ∨
    page.delayedOnLoadURLDone urls delayedTaskId = [.executeJavaScript .wikipedia]

def RedirectsOnlyAMPPages (delayedTaskId : Int) : Prop :=
  ∀ webState, page.currentWebState = some webState → delayedTaskId = page.delayedTaskId →
    (.executeJavaScript .getIframeURL ∈ page.delayedOnLoadURLDone urls delayedTaskId →
      webState.IsTrustedGooglePage urls ∧ webState.HasAMPPath urls) ∧
    (¬ (webState.IsTrustedGooglePage urls ∧ webState.HasAMPPath urls) →
      page.DistillsLoadedPage urls delayedTaskId)

/-! ## Which pages are redirected -/

variable {urls : DistillerUrls Url} {page : ReadingListDistillerPage Url}

theorem getIframeURL_notMem_continuePageDistillation :
    .executeJavaScript .getIframeURL ∉ page.continuePageDistillation := by
  grind [continuePageDistillation]

/-- Only pages of the AMP cache are asked for another page exactly if every trusted Google page
that is loaded has a path of the AMP cache. -/
theorem redirectsOnlyAMPPages_iff (urls : DistillerUrls Url) (page : ReadingListDistillerPage Url)
    (delayedTaskId : Int) :
    page.RedirectsOnlyAMPPages urls delayedTaskId ↔
      ∀ webState, page.currentWebState = some webState → delayedTaskId = page.delayedTaskId →
        webState.IsTrustedGooglePage urls → webState.HasAMPPath urls := by
  refine forall_congr' fun webState => forall_congr' fun present => forall_congr' fun current => ?_
  have entered : page.delayedOnLoadURLDone urls delayedTaskId =
      if webState.isGoogleCachedAMPPage urls then [.executeJavaScript .getIframeURL]
      else if webState.isWikipediaPage urls then [.executeJavaScript .wikipedia]
      else page.continuePageDistillation := by
    simp [delayedOnLoadURLDone, present, current]
  unfold DistillsLoadedPage
  by_cases amp : webState.isGoogleCachedAMPPage urls = true
  · have trusted := DistilledWebState.isGoogleCachedAMPPage_iff.mp amp
    grind
  · rw [entered, if_neg amp]
    have untrusted : ¬ webState.IsTrustedGooglePage urls :=
      fun trusted => amp (DistilledWebState.isGoogleCachedAMPPage_iff.mpr trusted)
    grind [getIframeURL_notMem_continuePageDistillation]

end ReadingListDistillerPage

structure PlainHttpsUrl where
  host : String
  path : List Char
deriving DecidableEq

/-- The domain without subdomains but the one for the web. -/
def plainHttpsUrls : DistillerUrls PlainHttpsUrl where
  isValid _ := true
  schemeIs _ scheme := scheme = "https"
  host url := url.host.toList
  path url := '/' :: url.path
  isGoogleDomainUrl url := url.host = "google.com" ∨ url.host = "www.google.com"
  path_of_https url _ _ := ⟨url.path, rfl⟩

def searchPage : DistilledWebState PlainHttpsUrl where
  lastCommittedURL := ⟨"www.google.com", "search".toList⟩
  visibleURL := ⟨"www.google.com", "search".toList⟩
  ssl := ⟨true, false, false⟩

theorem not_redirectsOnlyAMPPages_searchPage :
    ¬ ReadingListDistillerPage.RedirectsOnlyAMPPages plainHttpsUrls
      ⟨searchPage.lastCommittedURL, true, 1, some searchPage⟩ 1 := by
  intro keeps
  have redirected := (keeps searchPage rfl rfl).1 (by decide)
  exact absurd redirected.2 (by decide)

end ChromiumIos
