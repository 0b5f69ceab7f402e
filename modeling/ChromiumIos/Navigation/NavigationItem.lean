import ChromiumIos.Lib.Checked
import ChromiumIos.Navigation.PageDisplayState

/-!
# Navigation items

A navigation item is an entry of the session history of a tab, committed or
not.  Items are values here: an operation that changes an item returns the
changed one.  Favicons, SSL status and the state machine for error pages are left
out, as nothing in the modelled managers reads them.
-/

namespace ChromiumIos

open Lib

/-- A URL is known by its text; what its parts are is asked of an environment. -/
structure GURL where
  spec : String
  deriving DecidableEq, Repr

namespace GURL

def empty : GURL := ⟨""⟩

def isEmpty (url : GURL) : Bool := url.spec == ""

end GURL

structure Referrer where
  url : GURL
  policy : Nat
  deriving DecidableEq, Repr

def referrerPolicyAlways : Nat := 0
def referrerPolicyDefault : Nat := 1

/-- The transition of a page, a core type in the low byte and qualifiers above it. -/
abbrev PageTransition := BitVec 32

namespace PageTransition

def link : PageTransition := 0x00000000#32
def formSubmit : PageTransition := 0x00000007#32
def reload : PageTransition := 0x00000008#32
def forwardBack : PageTransition := 0x01000000#32
def clientRedirect : PageTransition := 0x40000000#32
def coreMask : PageTransition := 0x000000ff#32

def coreTypeIs (transition core : PageTransition) : Bool := transition &&& coreMask == core

end PageTransition

inductive UserAgentType where
  | none
  | mobile
  | desktop
  deriving DecidableEq, Repr

inductive UserAgentOverrideOption where
  | inherit
  | mobile
  | desktop
  deriving DecidableEq, Repr

inductive NavigationInitiationType where
  | none
  | rendererInitiated
  | browserInitiated
  deriving DecidableEq, Repr

/-- An item as the constructor of `NavigationItemImpl` makes it, field by field. -/
structure NavigationItem where
  originalRequestUrl : GURL := .empty
  url : GURL := .empty
  referrer : Referrer := ⟨.empty, referrerPolicyDefault⟩
  virtualUrl : GURL := .empty
  title : String := ""
  pageDisplayState : PageDisplayState := {}
  transitionType : PageTransition := PageTransition.link
  timestamp : Int := 0
  userAgentType : UserAgentType := .mobile
  httpRequestHeaders : Option (List (String × String)) := Option.none
  serializedStateObject : Option String := Option.none
  isCreatedFromPushState : Bool := false
  hasStateBeenReplaced : Bool := false
  isCreatedFromHashChange : Bool := false
  shouldSkipRepostFormConfirmation : Bool := false
  postData : Option String := Option.none
  navigationInitiationType : NavigationInitiationType := .none
  deriving DecidableEq, Repr

variable (item : NavigationItem)

namespace NavigationItem

def setVirtualURL (url : GURL) : NavigationItem :=
  { item with virtualUrl := if url = item.url then .empty else url }

def getVirtualURL : GURL :=
  if item.virtualUrl.isEmpty then item.url else item.virtualUrl

/-- The additional headers take the place of those with the same key. -/
def addHttpRequestHeaders (additionalHeaders : List (String × String)) : NavigationItem :=
  let isKept := fun header : String × String =>
    additionalHeaders.all fun additional => additional.1 ≠ header.1
  { item with
    httpRequestHeaders :=
      some ((item.httpRequestHeaders.getD []).filter isKept ++ additionalHeaders) }

/-- A committed item is not renderer-initiated any more. -/
def resetForCommit : NavigationItem :=
  { item with navigationInitiationType := .none }

end NavigationItem

/-- What the managers ask the embedder and the URL library. -/
structure NavigationEnvironment where
  isAppSpecificURL : GURL → Bool
  urlNeedsUserAgentType : GURL → Bool
  isRestoreSessionUrl : GURL → Bool
  isPlaceholderUrl : GURL → Bool
  createPlaceholderUrlForUrl : GURL → GURL
  isValid : GURL → Bool
  getOrigin : GURL → GURL
  equalsIgnoringRef : GURL → GURL → Bool
  extractTargetURL : GURL → Option GURL
  extractUrlFromPlaceholderUrl : GURL → GURL
  rewriteURLIfNecessary : GURL → Option GURL

def plainEnvironment : NavigationEnvironment where
  isAppSpecificURL := fun _ => false
  urlNeedsUserAgentType := fun _ => true
  isRestoreSessionUrl := fun _ => false
  isPlaceholderUrl := fun _ => false
  createPlaceholderUrlForUrl := fun url => url
  isValid := fun _ => true
  getOrigin := fun _ => .empty
  equalsIgnoringRef := fun first second => first == second
  extractTargetURL := fun _ => none
  extractUrlFromPlaceholderUrl := fun _ => .empty
  rewriteURLIfNecessary := fun _ => none

def restoringEnvironment : NavigationEnvironment :=
  { plainEnvironment with
    isRestoreSessionUrl := fun url => "restore".toList.isPrefixOf url.spec.toList
    isValid := fun url => !url.isEmpty }

namespace NavigationItem

variable (env : NavigationEnvironment)

def setURL (url : GURL) : NavigationItem :=
  { item with url := url }

def setUserAgentType (item : NavigationItem) (userAgentType : UserAgentType) :
    Checked NavigationItem := do
  dcheck ((!env.urlNeedsUserAgentType item.getVirtualURL) =
    decide (userAgentType = .none))
  return { item with userAgentType := userAgentType }

end NavigationItem

end ChromiumIos
