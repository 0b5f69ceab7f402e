import ChromiumIos.Navigation.WKNavigationOperations

/-!
# Items that have the user agent they need

The user agent of an item is decided once, for the URL it is created with.  Its
URL and its virtual URL are changed later, and the user agent is not looked at
again then.  An item keeps the user agent it needs as long as neither URL is
changed to one that needs a user agent which the item does not have.
-/

namespace ChromiumIos

open Lib

variable {env : NavigationEnvironment}

structure NavigationItem.HasUserAgent (env : NavigationEnvironment)
    (item : NavigationItem) : Prop where
  url : env.urlNeedsUserAgentType item.url = true → item.userAgentType ≠ .none
  virtualUrl :
    env.urlNeedsUserAgentType item.getVirtualURL = true → item.userAgentType ≠ .none

/-- The page that restores a session is a file that needs a user agent, unlike other files. -/
def NavigationEnvironment.RestoresWithUserAgent (env : NavigationEnvironment) : Prop :=
  ∀ url, env.isRestoreSessionUrl url = true →
    env.urlNeedsUserAgentType url = true

variable {option : UserAgentOverrideOption} {inherited : Option NavigationItem}
  {typed : NavigationItem}

namespace NavigationItem

variable {item : NavigationItem} {url : GURL}

theorem getVirtualURL_of_plain (plain : item.virtualUrl = .empty) :
    item.getVirtualURL = item.url := by
  simp [getVirtualURL, plain, GURL.isEmpty, GURL.empty]

theorem getVirtualURL_setVirtualURL (item : NavigationItem) (url : GURL) :
    (item.setVirtualURL url).getVirtualURL = url ∨
      (item.setVirtualURL url).getVirtualURL = item.url := by
  grind [getVirtualURL, setVirtualURL, getVirtualURL_of_plain]

theorem getVirtualURL_setURL (item : NavigationItem) (url : GURL) :
    (item.setURL url).getVirtualURL = url ∨
      (item.setURL url).getVirtualURL = item.getVirtualURL := by
  grind [getVirtualURL, setURL]

namespace HasUserAgent

theorem of_present (present : item.userAgentType ≠ .none) : item.HasUserAgent env :=
  ⟨fun _ => present, fun _ => present⟩

theorem of_plain (plain : item.virtualUrl = .empty)
    (needed : env.urlNeedsUserAgentType item.url = true → item.userAgentType ≠ .none) :
    item.HasUserAgent env := by
  refine ⟨needed, ?_⟩
  rw [getVirtualURL_of_plain plain]
  exact needed

/-- An item without a user agent cannot be given a URL that needs one. -/
theorem setURL (has : item.HasUserAgent env)
    (needed : env.urlNeedsUserAgentType url = true → item.userAgentType ≠ .none) :
    (item.setURL url).HasUserAgent env := by
  refine ⟨needed, ?_⟩
  rcases getVirtualURL_setURL item url with same | same
  · rw [same]
    exact needed
  · rw [same]
    exact has.virtualUrl

theorem setVirtualURL (has : item.HasUserAgent env)
    (needed : env.urlNeedsUserAgentType url = true → item.userAgentType ≠ .none) :
    (item.setVirtualURL url).HasUserAgent env := by
  refine ⟨has.url, ?_⟩
  rcases getVirtualURL_setVirtualURL item url with same | same
  · rw [same]
    exact needed
  · rw [same]
    exact has.url

end HasUserAgent

variable {userAgentType : UserAgentType}

/-- An asserted type fits the virtual URL, which is the URL of a plain item. -/
theorem setUserAgentType_hasUserAgent (plain : item.virtualUrl = .empty)
    (typing : item.setUserAgentType env userAgentType = some typed) :
    typed.HasUserAgent env := by
  obtain ⟨fits, typing⟩ := dcheck_then typing
  cases typing
  rw [getVirtualURL_of_plain plain] at fits
  refine .of_plain plain fun needed missing => ?_
  grind

theorem setUserAgentType_present (present : userAgentType ≠ .none)
    (typing : item.setUserAgentType env userAgentType = some typed) :
    typed.userAgentType ≠ .none := by
  obtain ⟨-, typing⟩ := dcheck_then typing
  grind

end NavigationItem

open NavigationItem

/-! ## Items that are made -/

variable {item : NavigationItem}

/-- A new item has a user agent exactly if the URL that it loads needs one. -/
theorem createNavigationItemWithRewriters_userAgentType {isPlaceholderUrl : GURL → Bool}
    {url previousUrl : GURL} {referrer : Referrer} {transition : PageTransition}
    {initiationType : NavigationInitiationType} {rewriters : List URLRewriter}
    (created : createNavigationItemWithRewriters env isPlaceholderUrl url referrer
      transition initiationType previousUrl rewriters = some item) :
    item.virtualUrl = .empty ∧
      (env.urlNeedsUserAgentType item.url = true → item.userAgentType ≠ .none) := by
  rw [createNavigationItemWithRewriters_eq _ _ _ _ _ _ _ _ rfl] at created
  cases created
  simp

theorem updatePendingItemUserAgentType_present
    (updated : updatePendingItemUserAgentType env option inherited item = some typed) :
    typed = item ∨ typed.userAgentType ≠ .none := by
  obtain ⟨-, updated⟩ := dcheck_then updated
  grind [setUserAgentType_present, dcheck_then]

theorem updatePendingItemUserAgentType_hasUserAgent (has : item.HasUserAgent env)
    (updated : updatePendingItemUserAgentType env option inherited item = some typed) :
    typed.HasUserAgent env := by
  rcases updatePendingItemUserAgentType_present updated with rfl | present
  · exact has
  · exact .of_present present

namespace WKNavigationManager

/-- An item that is made for an entry displays the target of a restore page. -/
theorem withTargetURL_hasUserAgent (restores : env.RestoresWithUserAgent)
    (plain : item.virtualUrl = .empty)
    (needed : env.urlNeedsUserAgentType item.url = true → item.userAgentType ≠ .none) :
    (withTargetURL env item).HasUserAgent env := by
  have has : item.HasUserAgent env := .of_plain plain needed
  unfold withTargetURL
  split
  · rename_i restorePage
    have present := needed (restores item.url restorePage)
    grind [has.setVirtualURL]
  · exact has

theorem rebuiltItem_hasUserAgent {wkItem : WKBackForwardListItem}
    {previousWKItem : Option WKBackForwardListItem} {timestamp : Int}
    (restores : env.RestoresWithUserAgent)
    (rebuilt : rebuiltItem env wkItem previousWKItem timestamp = some item) :
    item.HasUserAgent env := by
  obtain ⟨made, created, rebuilt⟩ := bind_eq_some rebuilt
  grind [createNavigationItemWithRewriters_userAgentType, withTargetURL_hasUserAgent]

/-! ## Items that are loaded -/

variable {params : WebLoadParams}

theorem describeLoad_hasUserAgent {last : Option NavigationItem}
    (has : item.HasUserAgent env) (needed : env.isValid params.virtualUrl = true →
      env.urlNeedsUserAgentType params.virtualUrl = true → item.userAgentType ≠ .none) :
    (describeLoad env params last item).HasUserAgent env := by
  have displayed : ∀ marked : NavigationItem, marked.HasUserAgent env →
      marked.userAgentType = item.userAgentType →
      (if env.isValid params.virtualUrl then marked.setVirtualURL params.virtualUrl
        else marked).HasUserAgent env := by
    intro marked has same
    grind [has.setVirtualURL]
  unfold describeLoad
  dsimp only
  refine displayed _ ?_ ?_
  · split
    · exact ⟨has.url, has.virtualUrl⟩
    · exact has
  · split <;> rfl

theorem extraHeaders_hasUserAgent (params : WebLoadParams) (has : item.HasUserAgent env) :
    (match params.extraHeaders with
      | some headers => item.addHttpRequestHeaders headers
      | none => item).HasUserAgent env := by
  cases params.extraHeaders with
  | none => exact has
  | some _ => exact ⟨has.url, has.virtualUrl⟩

theorem addHeadersAndPostData_hasUserAgent {added : NavigationItem}
    (has : item.HasUserAgent env)
    (adding : addHeadersAndPostData params item = some added) : added.HasUserAgent env := by
  have headed := extraHeaders_hasUserAgent params has
  unfold addHeadersAndPostData at adding
  cases posted : params.postData with
  | none =>
    grind
  | some _ =>
    rw [posted] at adding
    obtain ⟨-, adding⟩ := dcheck_then adding
    cases adding
    exact ⟨headed.url, headed.virtualUrl⟩

end WKNavigationManager

end ChromiumIos
