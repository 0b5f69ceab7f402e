import ChromiumIos.ReadingList.DownloadService

/-!
# The URLs of offline pages

The URL of an offline page holds the path of the page, and in its query the URL of
the entry and the URL that is shown.  A URL is accepted only if it is the one that is
made of a processed entry.
-/

namespace ChromiumIos

open Lib

/-- What is asked of URLs and of the values in their queries. -/
structure OfflinePageUrls (Url : Type) where
  ofSpec : String → Url
  spec : Url → String
  emptyGURL : Url
  isValid : Url → Bool
  schemeIs : Url → String → Bool
  host : Url → String
  replacePath : Url → String → Url
  appendQueryParameter : Url → String → String → Url
  getValueForKeyInQuery : Url → String → Option String

variable {Url : Type}

namespace OfflinePageUrls

def kChromeUIOfflineURL : String := "chrome://offline/"

def kEntryURLQueryParam : String := "entryURL"

def kVirtualURLQueryParam : String := "virtualURL"

inductive IsPage (urls : OfflinePageUrls Url) : Url → Prop where
  | path (path : String) : IsPage urls (urls.replacePath (urls.ofSpec kChromeUIOfflineURL) path)
  | append {url : Url} (page : IsPage urls url) (name value : String) :
      IsPage urls (urls.appendQueryParameter url name value)

/-- The spec of a valid URL gives the URL again, values are found as they were appended, the first
of a name before the others, and paths and values leave the scheme and the host. -/
structure Lawful (urls : OfflinePageUrls Url) : Prop where
  ofSpec_spec : ∀ url, urls.isValid url = true → urls.ofSpec (urls.spec url) = url
  isValid_emptyGURL : urls.isValid urls.emptyGURL = false
  schemeIs_page : ∀ url, urls.IsPage url → urls.schemeIs url "chrome" = true
  host_page : ∀ url, urls.IsPage url → urls.host url = "offline"
  value_path : ∀ path key,
    urls.getValueForKeyInQuery (urls.replacePath (urls.ofSpec kChromeUIOfflineURL) path) key = none
  value_append : ∀ url name value key, urls.IsPage url →
    urls.getValueForKeyInQuery (urls.appendQueryParameter url name value) key =
      (urls.getValueForKeyInQuery url key).or (if name = key then some value else none)

end OfflinePageUrls

/-- An entry: its URL is valid, and if it was processed, it has a path and a valid distilled
URL. -/
structure DistilledEntry (urls : OfflinePageUrls Url) where
  url : Url
  distilledState : DistillationState
  distilledPath : String
  distilledURL : Url
  valid : urls.isValid url = true
  processed : distilledState = .processed →
    distilledPath ≠ "" ∧ urls.isValid distilledURL = true

structure DistilledModel (urls : OfflinePageUrls Url) where
  loaded : Bool
  entries : List (DistilledEntry urls)
  nodup : (entries.map (·.url)).Nodup

def DistilledModel.getEntryByURL [DecidableEq Url] {urls : OfflinePageUrls Url}
    (model : DistilledModel urls) (url : Url) : Option (DistilledEntry urls) :=
  model.entries.find? fun entry => entry.url = url

namespace OfflinePageUrls

variable (urls : OfflinePageUrls Url)

def offlineURLForPath (distilledPath : String) (entryUrl virtualUrl : Url) : Checked Url := do
  dcheck (distilledPath ≠ "")
  dcheck (urls.isValid entryUrl = true)
  dcheck (urls.isValid virtualUrl = true)
  let pageUrl := urls.replacePath (urls.ofSpec kChromeUIOfflineURL) distilledPath
  let pageUrl := urls.appendQueryParameter pageUrl kEntryURLQueryParam (urls.spec entryUrl)
  return urls.appendQueryParameter pageUrl kVirtualURLQueryParam (urls.spec virtualUrl)

def urlForKeyInQuery (key : String) (offlineUrl : Url) : Url :=
  match urls.getValueForKeyInQuery offlineUrl key with
  | some urlString =>
    if urls.isValid (urls.ofSpec urlString) then urls.ofSpec urlString else urls.emptyGURL
  | none => urls.emptyGURL

def entryURLForOfflineURL : Url → Url :=
  urls.urlForKeyInQuery kEntryURLQueryParam

def virtualURLForOfflineURL : Url → Url :=
  urls.urlForKeyInQuery kVirtualURLQueryParam

def isOfflineURL (url : Url) : Bool :=
  urls.schemeIs url "chrome" && urls.host url = "offline"

def isOfflineURLValid [DecidableEq Url] (urls : OfflinePageUrls Url) (url : Url)
    (model : Option (DistilledModel urls)) : Checked Bool :=
  if !urls.isOfflineURL url then some false
  else
    let entryUrl := urls.entryURLForOfflineURL url
    match model with
    | none => some false
    | some model =>
      if !urls.isValid entryUrl || !model.loaded then some false
      else
        match model.getEntryByURL entryUrl with
        | none => some false
        | some entry =>
          if entry.distilledState ≠ .processed then some false
          else do
            let offlineUrl ←
              urls.offlineURLForPath entry.distilledPath entry.url entry.distilledURL
            return decide (url = offlineUrl)

def IsURLOf (url : Url) (entry : DistilledEntry urls) : Prop :=
  entry.distilledState = .processed ∧
    urls.offlineURLForPath entry.distilledPath entry.url entry.distilledURL = some url

variable {urls : OfflinePageUrls Url} {url page entryUrl virtualUrl : Url} {path : String}

theorem offlineURLForPath_eq_some (notEmpty : path ≠ "") (entry : urls.isValid entryUrl = true)
    (virtual : urls.isValid virtualUrl = true) :
    urls.offlineURLForPath path entryUrl virtualUrl =
      some (urls.appendQueryParameter (urls.appendQueryParameter
        (urls.replacePath (urls.ofSpec kChromeUIOfflineURL) path) kEntryURLQueryParam
          (urls.spec entryUrl)) kVirtualURLQueryParam (urls.spec virtualUrl)) := by
  grind [offlineURLForPath, dcheck_of]

theorem urlForKeyInQuery_of_spec (lawful : urls.Lawful) {key : String}
    (valid : urls.isValid url = true)
    (given : urls.getValueForKeyInQuery page key = some (urls.spec url)) :
    urls.urlForKeyInQuery key page = url := by
  simp [urlForKeyInQuery, given, lawful.ofSpec_spec url valid, if_pos valid]

/-- What an offline URL was made of is read back. -/
theorem urlForKeyInQuery_offlineURL (lawful : urls.Lawful) (notEmpty : path ≠ "")
    (entry : urls.isValid entryUrl = true) (virtual : urls.isValid virtualUrl = true)
    (made : urls.offlineURLForPath path entryUrl virtualUrl = some page) :
    urls.IsPage page ∧ urls.entryURLForOfflineURL page = entryUrl ∧
      urls.virtualURLForOfflineURL page = virtualUrl := by
  rw [offlineURLForPath_eq_some notEmpty entry virtual] at made
  cases made
  have pathPage : urls.IsPage _ := .path path
  have entryPage := pathPage.append kEntryURLQueryParam (urls.spec entryUrl)
  refine ⟨entryPage.append _ _, urlForKeyInQuery_of_spec lawful entry ?_,
    urlForKeyInQuery_of_spec lawful virtual ?_⟩
  · grind [lawful.value_append, lawful.value_path]
  · rw [lawful.value_append _ _ _ _ entryPage, lawful.value_append _ _ _ _ pathPage,
      lawful.value_path, if_neg (by decide), if_pos rfl]
    rfl

theorem isOfflineURL_of_isPage (lawful : urls.Lawful) (isPage : urls.IsPage page) :
    urls.isOfflineURL page = true := by
  unfold isOfflineURL
  rw [lawful.schemeIs_page page isPage, lawful.host_page page isPage]
  rfl

variable [DecidableEq Url]

theorem getEntryByURL_eq_some {model : DistilledModel urls} {entry : DistilledEntry urls}
    (mem : entry ∈ model.entries) : model.getEntryByURL entry.url = some entry := by
  obtain ⟨found, same⟩ : ∃ found, model.getEntryByURL entry.url = some found :=
    Option.isSome_iff_exists.mp (List.find?_isSome.mpr ⟨entry, mem, decide_eq_true rfl⟩)
  have url : found.url = entry.url := by
    simpa using List.find?_some same
  rw [same, List.inj_on_of_nodup_map model.nodup (List.mem_of_find?_eq_some same) mem url]

/-- A loaded model accepts a URL exactly if it is made of a processed entry. -/
theorem isOfflineURLValid_spec (lawful : urls.Lawful) (model : DistilledModel urls)
    (loaded : model.loaded = true) (url : Url) :
    ∃ answer, urls.isOfflineURLValid url (some model) = some answer ∧
      (answer = true ↔ ∃ entry ∈ model.entries, urls.IsURLOf url entry) := by
  -- what holds of a URL that is made of an entry
  have made : ∀ entry ∈ model.entries, urls.IsURLOf url entry →
      urls.isOfflineURL url = true ∧ urls.isValid (urls.entryURLForOfflineURL url) = true ∧
        model.getEntryByURL (urls.entryURLForOfflineURL url) = some entry := by
    intro entry mem isUrl
    obtain ⟨notEmpty, valid⟩ := entry.processed isUrl.1
    obtain ⟨isPage, same, -⟩ :=
      urlForKeyInQuery_offlineURL lawful notEmpty entry.valid valid isUrl.2
    rw [same]
    exact ⟨isOfflineURL_of_isPage lawful isPage, entry.valid, getEntryByURL_eq_some mem⟩
  unfold isOfflineURLValid
  dsimp only
  cases offline : urls.isOfflineURL url with
  | false =>
    refine ⟨false, rfl, nofun, ?_⟩
    grind
  | true =>
  cases valid : urls.isValid (urls.entryURLForOfflineURL url) with
  | false =>
    refine ⟨false, rfl, nofun, ?_⟩
    grind
  | true =>
  rw [loaded]
  cases found : model.getEntryByURL (urls.entryURLForOfflineURL url) with
  | none =>
    refine ⟨false, rfl, nofun, ?_⟩
    grind
  | some entry =>
    by_cases processed : entry.distilledState = .processed
    · obtain ⟨notEmpty, distilled⟩ := entry.processed processed
      have same := offlineURLForPath_eq_some notEmpty entry.valid distilled
      refine ⟨_, (if_neg (not_not.mpr processed)).trans (congrArg (· >>= _) same), ?_⟩
      rw [decide_eq_true_iff]
      constructor
      · exact fun url => ⟨entry, List.mem_of_find?_eq_some found, processed, url ▸ same⟩
      · grind [IsURLOf]
    · refine ⟨false, if_pos processed, nofun, ?_⟩
      grind [IsURLOf]

/-- What an offline URL is made of is read back from it, and a loaded model accepts the URLs that
are made of its processed entries and no others. -/
theorem offlineURL_spec (urls : OfflinePageUrls Url) (lawful : urls.Lawful) :
    (∀ path entryUrl virtualUrl, path ≠ "" → urls.isValid entryUrl = true →
      urls.isValid virtualUrl = true →
        ∃ page, urls.offlineURLForPath path entryUrl virtualUrl = some page ∧
          urls.entryURLForOfflineURL page = entryUrl ∧
            urls.virtualURLForOfflineURL page = virtualUrl) ∧
      ∀ model : DistilledModel urls, model.loaded = true → ∀ url,
        ∃ answer, urls.isOfflineURLValid url (some model) = some answer ∧
          (answer = true ↔ ∃ entry ∈ model.entries, urls.IsURLOf url entry) := by
  refine ⟨fun path entryUrl virtualUrl notEmpty entry virtual => ?_, isOfflineURLValid_spec lawful⟩
  have made := offlineURLForPath_eq_some notEmpty entry virtual
  exact ⟨_, made, (urlForKeyInQuery_offlineURL lawful notEmpty entry virtual made).2⟩

end OfflinePageUrls

/-- A URL by its parts; pages that are not offline are known by their text. -/
structure PlainPage where
  offline : Bool
  path : String
  query : List (String × String)
deriving DecidableEq

def plainPages : OfflinePageUrls PlainPage where
  ofSpec spec := if spec = "chrome://offline/" then ⟨true, "/", []⟩ else ⟨false, spec, []⟩
  spec url := url.path
  emptyGURL := ⟨false, "", []⟩
  isValid url :=
    !url.offline && url.path ≠ "" && url.path ≠ "chrome://offline/" && url.query = []
  schemeIs url scheme := url.offline && scheme = "chrome"
  host url := if url.offline then "offline" else ""
  replacePath url path := { url with path }
  appendQueryParameter url name value := { url with query := url.query ++ [(name, value)] }
  getValueForKeyInQuery url key := url.query.lookup key

theorem plainPages_lawful : plainPages.Lawful := by
  have offline : ∀ url, plainPages.IsPage url → url.offline = true := by
    intro url page
    induction page with
    | path _ => rfl
    | append _ _ _ ih => exact ih
  constructor
  · rintro ⟨offline, path, query⟩ valid
    simp only [plainPages, Bool.and_eq_true, Bool.not_eq_true', decide_eq_true_eq] at valid ⊢
    simp [valid]
  · rfl
  · simpa [plainPages] using offline
  · simpa [plainPages] using offline
  · exact fun _ _ => rfl
  · grind [plainPages]

def distilledFoo : DistilledEntry plainPages where
  url := ⟨false, "http://foo.bar/", []⟩
  distilledState := .processed
  distilledPath := "MD5/page.html"
  distilledURL := ⟨false, "http://foo.bar/virtual", []⟩
  valid := by decide
  processed _ := by decide

def offlineFoo : PlainPage where
  offline := true
  path := "MD5/page.html"
  query := [("entryURL", "http://foo.bar/"), ("virtualURL", "http://foo.bar/virtual")]

namespace OfflinePageUrls

theorem offlineURL_spec_distilledFoo :
    (∃ page, plainPages.offlineURLForPath "MD5/page.html" distilledFoo.url
        distilledFoo.distilledURL = some page ∧
      plainPages.entryURLForOfflineURL page = distilledFoo.url ∧
        plainPages.virtualURLForOfflineURL page = distilledFoo.distilledURL) ∧
      ∃ answer, plainPages.isOfflineURLValid offlineFoo
        (some ⟨true, [distilledFoo], List.nodup_singleton _⟩) = some answer ∧
          (answer = true ↔ ∃ entry ∈ [distilledFoo], plainPages.IsURLOf offlineFoo entry) :=
  ⟨(offlineURL_spec plainPages plainPages_lawful).1 _ _ _ (by decide) (by decide) (by decide),
    (offlineURL_spec plainPages plainPages_lawful).2
      ⟨true, [distilledFoo], List.nodup_singleton _⟩ rfl offlineFoo⟩

end OfflinePageUrls

end ChromiumIos
