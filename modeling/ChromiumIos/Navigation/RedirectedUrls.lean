import ChromiumIos.Navigation.ErrorRetryStateMachine
import ChromiumIos.Navigation.RestoredItems
import ChromiumIos.Navigation.WKNavigationUtil

/-!
# The redirects and placeholders of the managers

The managers and the error machine ask their environment about redirects and placeholders.  Here
the functions that make them and read them give the answers, so that what is assumed of a redirect
where a session is restored follows from the laws of the URL library.
-/

namespace ChromiumIos

open Lib WKNavigationManager

namespace WKNavigationUtil.UrlLibrary

variable (library : UrlLibrary GURL) (embedder : NavigationEnvironment)

/-- The environment of an embedder whose redirects and placeholders are those of the library. -/
def environment : NavigationEnvironment :=
  { embedder with
    isValid := library.isValid
    isRestoreSessionUrl := library.isRestoreSessionUrl
    isPlaceholderUrl := library.isPlaceholderUrl
    createPlaceholderUrlForUrl := fun url =>
      (library.createPlaceholderUrlForUrl url).getD library.emptyGURL
    extractTargetURL := fun url => (library.extractTargetURL url).join
    extractUrlFromPlaceholderUrl := library.extractUrlFromPlaceholderUrl }

def retryUrls : RetryUrls :=
  { library.environment embedder with createRedirectUrl := library.createRedirectUrl }

variable {library embedder} {url : GURL}

/-- The assertion holds wherever a URL is one of the page that restores sessions, as it is where
the managers ask for a target. -/
theorem extractTargetURL_environment (isRestore : library.isRestoreSessionUrl url = true) :
    library.extractTargetURL url = some ((library.environment embedder).extractTargetURL url) := by
  change _ = some (library.extractTargetURL url).join
  rw [extractTargetURL, dcheck_of isRestore]
  split_ifs <;> rfl

namespace Lawful

theorem createPlaceholderUrlForUrl_environment (lawful : library.Lawful) :
    library.createPlaceholderUrlForUrl url =
      some ((library.environment embedder).createPlaceholderUrlForUrl url) := by
  change _ = some ((library.createPlaceholderUrlForUrl url).getD _)
  cases valid : library.isValid url with
  | false =>
    unfold createPlaceholderUrlForUrl
    rw [if_pos valid]
    rfl
  | true =>
    rw [lawful.createPlaceholderUrlForUrl_of_valid valid]
    rfl

theorem extractTargetURL_environment_createRedirectUrl (lawful : library.Lawful)
    (valid : library.isValid url = true) :
    (library.environment embedder).extractTargetURL (library.createRedirectUrl url) =
      some url := by
  change (library.extractTargetURL (library.createRedirectUrl url)).join = some url
  rw [lawful.extractTargetURL_createRedirectUrl valid]
  rfl

/-- The URLs with which a restore begins are recognized, however their fragment goes on. -/
theorem knowsRestorePage_environment {baseUrl : String} (lawful : library.Lawful)
    (spelled : ∀ ref : String, ⟨baseUrl ++ ("#" ++ ref)⟩ =
      library.replaceRef library.getRestoreSessionBaseUrl ref.toList) :
    KnowsRestorePage (library.environment embedder) baseUrl := by
  rintro ⟨_, ref⟩ rfl
  have own : library.isRestoreSessionUrl
      (library.replaceRef library.getRestoreSessionBaseUrl ref.toList) = true :=
    lawful.isRestoreSessionUrl_replaceRef ref.toList
  rwa [← spelled ref] at own

/-- A redirect that the page spells as the code does is one of a restored session. -/
theorem redirects_environment {codec : SessionCodec} {baseUrl target : String}
    (lawful : library.Lawful) (valid : library.isValid ⟨target⟩ = true)
    (spelled : ⟨getRestoreURL codec baseUrl target⟩ = library.createRedirectUrl ⟨target⟩)
    (kept : embedder.rewriteURLIfNecessary ⟨getRestoreURL codec baseUrl target⟩ = none) :
    Redirects (library.environment embedder) codec baseUrl target where
  recognized := by
    rw [spelled]
    exact lawful.isRestoreSessionUrl_createRedirectUrl _
  kept := kept
  extracted := by
    rw [spelled]
    exact lawful.extractTargetURL_environment_createRedirectUrl valid

/-- The entry that redirects to the placeholder of a page displays this page. -/
theorem redirectedURL_placeholder (lawful : library.Lawful) (valid : library.isValid url = true)
    (nonempty : url.isEmpty = false) (redirect : GURL) :
    redirectedURL (library.environment embedder) redirect
      (library.placeholderOf (library.spec url)) = url := by
  have extracted := lawful.extractUrlFromPlaceholderUrl_create valid
  rw [lawful.createPlaceholderUrlForUrl_of_valid valid] at extracted
  have placeholder : (library.environment embedder).isPlaceholderUrl
      (library.placeholderOf (library.spec url)) = true :=
    lawful.isPlaceholderUrl_placeholderOf _
  have target : (library.environment embedder).extractUrlFromPlaceholderUrl
      (library.placeholderOf (library.spec url)) = url := Option.some.inj extracted
  simp [redirectedURL, placeholder, target, nonempty]

/-- The error machine ends with the redirect to the page that failed before. -/
theorem didFinishDisplaying_createRedirectUrl {machine : ErrorRetryStateMachine}
    (lawful : library.Lawful) (valid : library.isValid machine.url = true)
    (other : library.createRedirectUrl machine.url ≠
      (library.environment embedder).createPlaceholderUrlForUrl machine.url) :
    machine.didFinishDisplaying (library.retryUrls embedder)
      (library.createRedirectUrl machine.url) =
        some (.doNothing, { machine with state := .noNavigationError }) := by
  have isRedirect := lawful.isRestoreSessionUrl_createRedirectUrl machine.url
  have target : (library.environment embedder).extractTargetURL
      (library.createRedirectUrl machine.url) = some machine.url :=
    lawful.extractTargetURL_environment_createRedirectUrl valid
  exact (if_neg other).trans (if_pos ⟨isRedirect, target⟩)

end Lawful

end WKNavigationUtil.UrlLibrary

end ChromiumIos
