import ChromiumIos.Lib.Checked

/-!
# Redirect and placeholder URLs

A session is restored through URLs of a local page that carry the target in their fragment, and
through blank pages that carry it in their query.  A blank page is taken for a placeholder by the
first letters of its query, while the target is read from the query by its key.  URLs, their
queries and escaping are those of a library; strings are lists of characters.
-/

namespace ChromiumIos.WKNavigationUtil

open Lib

def kRestoreSessionTargetUrlHashPrefix : List Char := "targetUrl=".toList

def kOriginalUrlKey : List Char := "for".toList

def kAboutBlankURL : List Char := "about:blank".toList

def kFileScheme : List Char := "file".toList

/-- What is asked of URLs, of their queries and of escaping, and where the page that restores
sessions is found. -/
structure UrlLibrary (Url : Type) where
  gurl : List Char → Url
  emptyGURL : Url
  spec : Url → List Char
  isValid : Url → Bool
  isAboutBlank : Url → Bool
  schemeIsFile : Url → Bool
  path : Url → List Char
  query : Url → List Char
  ref : Url → List Char
  replaceSchemeAndPath : Url → List Char → List Char → Url
  replaceRef : Url → List Char → Url
  escapeQueryParamValue : List Char → Bool → List Char
  unescapeURLComponent : List Char → List Char
  appendQueryParameter : Url → List Char → List Char → Url
  getValueForKeyInQuery : Url → List Char → Option (List Char)
  restoreSessionResourcePath : List Char

namespace UrlLibrary

variable {Url : Type} (library : UrlLibrary Url)

def getRestoreSessionBaseUrl : Url :=
  library.replaceSchemeAndPath (library.gurl kAboutBlankURL) kFileScheme
    library.restoreSessionResourcePath

def isRestoreSessionUrl (url : Url) : Bool :=
  library.schemeIsFile url && library.path url = library.path library.getRestoreSessionBaseUrl

def createRedirectUrl (targetUrl : Url) : Url :=
  library.replaceRef library.getRestoreSessionBaseUrl (kRestoreSessionTargetUrlHashPrefix ++
    library.escapeQueryParamValue (library.spec targetUrl) false)

def extractTargetURL (restoreSessionUrl : Url) : Checked (Option Url) := do
  dcheck (library.isRestoreSessionUrl restoreSessionUrl)
  if kRestoreSessionTargetUrlHashPrefix <+: library.ref restoreSessionUrl then
    let encodedTargetUrl :=
      (library.ref restoreSessionUrl).drop kRestoreSessionTargetUrlHashPrefix.length
    return some (library.gurl (library.unescapeURLComponent encodedTargetUrl))
  else return none

def isPlaceholderUrl (url : Url) : Bool :=
  library.isAboutBlank url && kOriginalUrlKey.isPrefixOf (library.query url)

def placeholderOf (spec : List Char) : Url :=
  library.appendQueryParameter (library.gurl kAboutBlankURL) kOriginalUrlKey spec

def createPlaceholderUrlForUrl (originalUrl : Url) : Checked Url :=
  if library.isValid originalUrl = false then some library.emptyGURL
  else do
    let placeholderUrl := library.placeholderOf (library.spec originalUrl)
    dcheck (library.isValid placeholderUrl)
    return placeholderUrl

def extractUrlFromPlaceholderUrl (url : Url) : Url :=
  if library.isPlaceholderUrl url then
    match library.getValueForKeyInQuery url kOriginalUrlKey with
    | some value =>
      if library.isValid (library.gurl value) then library.gurl value else library.emptyGURL
    | none => library.emptyGURL
  else library.emptyGURL

/-- The spec of a valid URL gives the URL again, the components that are set are found, a
parameter that is appended to the blank page is written behind it as escaping writes it, and
escaped texts are read again. -/
structure Lawful (library : UrlLibrary Url) : Prop where
  gurl_spec : ∀ url, library.isValid url = true → library.gurl (library.spec url) = url
  schemeIsFile_replaceRef : ∀ ref,
    library.schemeIsFile (library.replaceRef library.getRestoreSessionBaseUrl ref) = true
  path_replaceRef : ∀ ref, library.path (library.replaceRef library.getRestoreSessionBaseUrl ref) =
    library.path library.getRestoreSessionBaseUrl
  ref_replaceRef : ∀ text,
    library.ref (library.replaceRef library.getRestoreSessionBaseUrl
        (kRestoreSessionTargetUrlHashPrefix ++ library.escapeQueryParamValue text false)) =
      kRestoreSessionTargetUrlHashPrefix ++ library.escapeQueryParamValue text false
  unescapes : ∀ text,
    library.unescapeURLComponent (library.escapeQueryParamValue text false) = text
  isValid_append : ∀ text, library.isValid (library.appendQueryParameter
    (library.gurl kAboutBlankURL) kOriginalUrlKey text) = true
  isAboutBlank_append : ∀ text, library.isAboutBlank (library.appendQueryParameter
    (library.gurl kAboutBlankURL) kOriginalUrlKey text) = true
  spec_append : ∀ text,
    library.spec (library.appendQueryParameter (library.gurl kAboutBlankURL) kOriginalUrlKey text) =
      kAboutBlankURL ++ '?' :: kOriginalUrlKey ++ '=' :: library.escapeQueryParamValue text true
  query_append : ∀ text,
    library.query
        (library.appendQueryParameter (library.gurl kAboutBlankURL) kOriginalUrlKey text) =
      kOriginalUrlKey ++ '=' :: library.escapeQueryParamValue text true
  value_query : ∀ url text,
    library.query url = kOriginalUrlKey ++ '=' :: library.escapeQueryParamValue text true →
      library.getValueForKeyInQuery url kOriginalUrlKey = some text

variable {library} {url : Url}

theorem isPlaceholderUrl_iff : library.isPlaceholderUrl url = true ↔
    library.isAboutBlank url = true ∧ ∃ rest, library.query url = kOriginalUrlKey ++ rest := by
  rw [isPlaceholderUrl, Bool.and_eq_true, List.isPrefixOf_iff_prefix]
  exact and_congr_right fun _ => exists_congr fun _ => eq_comm

namespace Lawful

theorem isPlaceholderUrl_placeholderOf (lawful : library.Lawful) (spec : List Char) :
    library.isPlaceholderUrl (library.placeholderOf spec) = true :=
  isPlaceholderUrl_iff.mpr ⟨lawful.isAboutBlank_append spec, _, lawful.query_append spec⟩

theorem isRestoreSessionUrl_replaceRef (lawful : library.Lawful) (ref : List Char) :
    library.isRestoreSessionUrl
      (library.replaceRef library.getRestoreSessionBaseUrl ref) = true := by
  simp [isRestoreSessionUrl, lawful.schemeIsFile_replaceRef, lawful.path_replaceRef]

theorem isRestoreSessionUrl_createRedirectUrl (lawful : library.Lawful) (url : Url) :
    library.isRestoreSessionUrl (library.createRedirectUrl url) = true :=
  lawful.isRestoreSessionUrl_replaceRef _

theorem extractTargetURL_createRedirectUrl (lawful : library.Lawful)
    (valid : library.isValid url = true) :
    library.extractTargetURL (library.createRedirectUrl url) = some (some url) := by
  rw [extractTargetURL, dcheck_of (lawful.isRestoreSessionUrl_createRedirectUrl url),
    createRedirectUrl, lawful.ref_replaceRef]
  simp [lawful.unescapes, lawful.gurl_spec url valid]

theorem createPlaceholderUrlForUrl_of_valid (lawful : library.Lawful)
    (valid : library.isValid url = true) :
    library.createPlaceholderUrlForUrl url = some (library.placeholderOf (library.spec url)) := by
  simp [createPlaceholderUrlForUrl, valid, placeholderOf, lawful.isValid_append]

theorem extractUrlFromPlaceholderUrl_create (lawful : library.Lawful)
    (valid : library.isValid url = true) :
    (library.createPlaceholderUrlForUrl url).map library.extractUrlFromPlaceholderUrl =
      some url := by
  have value : library.getValueForKeyInQuery (library.placeholderOf (library.spec url))
      kOriginalUrlKey = some (library.spec url) :=
    lawful.value_query _ _ (lawful.query_append _)
  simp [lawful.createPlaceholderUrlForUrl_of_valid valid, extractUrlFromPlaceholderUrl,
    lawful.isPlaceholderUrl_placeholderOf, value, lawful.gurl_spec url valid, valid]

/-- A URL is made as a placeholder by its spec. -/
theorem exists_placeholderOf_iff (lawful : library.Lawful) :
    (∃ spec, library.placeholderOf spec = url) ↔
      library.isValid url = true ∧ ∃ text, library.spec url =
        kAboutBlankURL ++ '?' :: kOriginalUrlKey ++
          '=' :: library.escapeQueryParamValue text true := by
  constructor
  · rintro ⟨spec, rfl⟩
    exact ⟨lawful.isValid_append spec, spec, lawful.spec_append spec⟩
  · rintro ⟨valid, text, own⟩
    refine ⟨text, ?_⟩
    rw [← lawful.gurl_spec url valid, own, ← lawful.spec_append text]
    exact (lawful.gurl_spec _ (lawful.isValid_append text)).symm

end Lawful

/-- The targets of redirects and of placeholders are read again, and a URL is a placeholder just if
one is made like it where an about:blank URL whose query begins with the key is spelled with the
key and an escaped value. -/
theorem isPlaceholderUrl_iff_placeholderOf (library : UrlLibrary Url) (lawful : library.Lawful) :
    (∀ url, library.isValid url = true →
      library.extractTargetURL (library.createRedirectUrl url) = some (some url) ∧
      (library.createPlaceholderUrlForUrl url).map library.extractUrlFromPlaceholderUrl =
        some url) ∧
    ∀ url : Url,
      ((library.isPlaceholderUrl url = true ↔ ∃ spec, library.placeholderOf spec = url) ↔
        (library.isAboutBlank url = true → kOriginalUrlKey <+: library.query url →
          library.isValid url = true ∧ ∃ text, library.spec url =
            kAboutBlankURL ++ '?' :: kOriginalUrlKey ++
              '=' :: library.escapeQueryParamValue text true)) ∧
      ((library.isPlaceholderUrl url = true ↔ library.isAboutBlank url = true ∧
          ∃ value, library.query url = kOriginalUrlKey ++ '=' :: value) ↔
        (library.isAboutBlank url = true → ∀ rest, library.query url = kOriginalUrlKey ++ rest →
          rest.head? = some '=')) := by
  refine ⟨fun url valid => ⟨lawful.extractTargetURL_createRedirectUrl valid,
    lawful.extractUrlFromPlaceholderUrl_create valid⟩, fun url => ⟨⟨?_, ?_⟩, ⟨?_, ?_⟩⟩⟩
  · rintro exactly blank ⟨rest, query⟩
    have made := exactly.mp (isPlaceholderUrl_iff.mpr ⟨blank, rest, query.symm⟩)
    exact lawful.exists_placeholderOf_iff.mp made
  · intro spelled
    constructor
    · intro placeholder
      obtain ⟨blank, rest, query⟩ := isPlaceholderUrl_iff.mp placeholder
      exact lawful.exists_placeholderOf_iff.mpr (spelled blank ⟨rest, query.symm⟩)
    · rintro ⟨spec, rfl⟩
      exact lawful.isPlaceholderUrl_placeholderOf spec
  · intro exactly blank rest query
    obtain ⟨-, value, own⟩ := exactly.mp (isPlaceholderUrl_iff.mpr ⟨blank, rest, query⟩)
    rw [List.append_cancel_left (query.symm.trans own)]
    rfl
  · intro keyed
    rw [isPlaceholderUrl_iff]
    refine and_congr_right fun blank => ⟨fun ⟨rest, query⟩ => ?_, fun ⟨value, query⟩ => ⟨_, query⟩⟩
    obtain ⟨value, rfl⟩ := List.head?_eq_some_iff.mp (keyed blank rest query)
    exact ⟨value, query⟩

end UrlLibrary

/-! ## A library that escapes bytes -/

def hexDigit (value : Nat) : Char := Char.ofNat (if value < 10 then 48 + value else 55 + value)

def hexValue (digit : Char) : Nat := if digit.toNat < 58 then digit.toNat - 48 else digit.toNat - 55

def escapeCharacter (character : Char) : List Char :=
  if character.isAlphanum ∨ character ∈ "!'()*-._~".toList ∨ 256 ≤ character.toNat then [character]
  else ['%', hexDigit (character.toNat / 16), hexDigit (character.toNat % 16)]

def unescapeText : List Char → List Char
  | '%' :: high :: low :: rest =>
    Char.ofNat (16 * hexValue high + hexValue low) :: unescapeText rest
  | character :: rest => character :: unescapeText rest
  | [] => []

theorem unescapeText_escape (text : List Char) :
    unescapeText (text.flatMap escapeCharacter) = text := by
  induction text with
  | nil => rfl
  | cons character rest ih =>
    have digits : ∀ value < 256, Char.ofNat (16 * hexValue (hexDigit (value / 16)) +
        hexValue (hexDigit (value % 16))) = Char.ofNat value := by
      decide +kernel
    rw [List.flatMap_cons, escapeCharacter]
    split_ifs with kept
    · have plain : character ≠ '%' := by rintro rfl; revert kept; decide
      simp [unescapeText, plain, ih]
    · simp [unescapeText, ih, digits _ (by omega : character.toNat < 256)]

theorem notMem_escape {separator : Char} (text : List Char)
    (special : separator ∈ "&?#:".toList) : separator ∉ text.flatMap escapeCharacter := by
  intro mem
  obtain ⟨character, -, mem⟩ := List.mem_flatMap.mp mem
  have digits : ∀ value < 16, hexDigit value ∉ "&?#:".toList := by decide
  have escaped : ∀ separator ∈ "&?#:".toList, separator ≠ '%' ∧ separator.isAlphanum = false ∧
      separator ∉ "!'()*-._~".toList ∧ separator.toNat < 256 := by
    decide
  obtain ⟨notPercent, notAlphanum, notKept, small⟩ := escaped separator special
  unfold escapeCharacter at mem
  split_ifs at mem with kept
  · cases List.mem_singleton.mp mem
    rcases kept with alphanum | punctuation | large
    · exact Bool.false_ne_true (notAlphanum.symm.trans alphanum)
    · exact notKept punctuation
    · exact Nat.not_le.mpr small large
  · simp only [List.mem_cons, List.not_mem_nil, or_false] at mem
    rcases mem with own | own | own
    · exact notPercent own
    · exact digits _ (by omega) (own ▸ special)
    · exact digits _ (by omega) (own ▸ special)

structure PlainUrl where
  text : List Char
deriving DecidableEq

namespace PlainUrl

variable (url : PlainUrl)

def unfragmented : List Char := url.text.takeWhile (· ≠ '#')

def beforeQuery : List Char := url.unfragmented.takeWhile (· ≠ '?')

def query : List Char := (url.unfragmented.dropWhile (· ≠ '?')).drop 1

def ref : List Char := (url.text.dropWhile (· ≠ '#')).drop 1

end PlainUrl

def percentUrls : UrlLibrary PlainUrl where
  gurl text := ⟨text⟩
  emptyGURL := ⟨[]⟩
  spec url := url.text
  isValid url := ':' ∈ url.text
  isAboutBlank url :=
    url.beforeQuery = kAboutBlankURL || url.beforeQuery = kAboutBlankURL ++ ['/']
  schemeIsFile url := (kFileScheme ++ [':']).isPrefixOf url.unfragmented
  path url := (url.beforeQuery.dropWhile (· ≠ ':')).drop 3
  query := PlainUrl.query
  ref := PlainUrl.ref
  replaceSchemeAndPath _ scheme path := ⟨scheme ++ "://".toList ++ path⟩
  replaceRef url ref := ⟨url.unfragmented ++ '#' :: ref⟩
  escapeQueryParamValue text _ := text.flatMap escapeCharacter
  unescapeURLComponent := unescapeText
  appendQueryParameter url name value :=
    ⟨url.text ++ (if url.query = [] then '?' else '&') :: name.flatMap escapeCharacter ++
      '=' :: value.flatMap escapeCharacter⟩
  getValueForKeyInQuery url key := (url.query.splitOn '&').findSome? fun parameter =>
    if parameter.takeWhile (· ≠ '=') = key then
      some (unescapeText ((parameter.dropWhile (· ≠ '=')).drop 1))
    else none
  restoreSessionResourcePath := "/restore_session.html".toList

namespace PlainUrl

variable {url : PlainUrl}

theorem notMem_unfragmented {char : Char} (mem : char ∈ url.unfragmented) :
    decide (char ≠ '#') = true := by
  have inPart : char ∈ url.text.takeWhile (· ≠ '#') := mem
  have kept := List.mem_takeWhile_imp inPart
  exact kept

theorem unfragmented_replaceRef (ref : List Char) :
    (percentUrls.replaceRef url ref).unfragmented = url.unfragmented := by
  change (url.unfragmented ++ '#' :: ref).takeWhile _ = _
  rw [List.takeWhile_append_of_pos fun _ => notMem_unfragmented]
  simp

theorem ref_replaceRef (ref : List Char) : (percentUrls.replaceRef url ref).ref = ref := by
  change ((url.unfragmented ++ '#' :: ref).dropWhile _).drop 1 = _
  rw [List.dropWhile_append_of_pos fun _ => notMem_unfragmented]
  simp

/-- Nothing of an appended parameter is taken for a fragment. -/
theorem unfragmented_appended (text : List Char) :
    (⟨"about:blank?for=".toList ++ text.flatMap escapeCharacter⟩ : PlainUrl).unfragmented =
      "about:blank?for=".toList ++ text.flatMap escapeCharacter := by
  have literal : ∀ char ∈ "about:blank?for=".toList, decide (char ≠ '#') = true := by decide
  refine List.takeWhile_eq_self_iff.mpr fun char mem => ?_
  rcases List.mem_append.mp mem with own | escaped
  · exact literal char own
  · exact decide_eq_true fun same => notMem_escape text (by decide) (same ▸ escaped)

theorem beforeQuery_appended (text : List Char) :
    (⟨"about:blank?for=".toList ++ text.flatMap escapeCharacter⟩ : PlainUrl).beforeQuery =
      kAboutBlankURL := by
  unfold beforeQuery
  rw [unfragmented_appended]
  rfl

theorem query_appended (text : List Char) :
    (⟨"about:blank?for=".toList ++ text.flatMap escapeCharacter⟩ : PlainUrl).query =
      kOriginalUrlKey ++ '=' :: text.flatMap escapeCharacter := by
  unfold query
  rw [unfragmented_appended]
  rfl

end PlainUrl

theorem percentUrls_append (text : List Char) :
    percentUrls.appendQueryParameter (percentUrls.gurl kAboutBlankURL) kOriginalUrlKey text =
      ⟨"about:blank?for=".toList ++ text.flatMap escapeCharacter⟩ :=
  rfl

theorem percentUrls_lawful : percentUrls.Lawful where
  gurl_spec _ _ := rfl
  schemeIsFile_replaceRef ref :=
    congrArg (List.isPrefixOf _) (PlainUrl.unfragmented_replaceRef ref)
  path_replaceRef ref :=
    congrArg (fun part => ((List.takeWhile _ part).dropWhile _).drop 3)
      (PlainUrl.unfragmented_replaceRef ref)
  ref_replaceRef _ := PlainUrl.ref_replaceRef _
  unescapes := unescapeText_escape
  isValid_append text := by
    rw [percentUrls_append]
    simp [percentUrls]
  isAboutBlank_append text := by
    rw [percentUrls_append]
    simp only [percentUrls, PlainUrl.beforeQuery_appended]
    rfl
  spec_append _ := rfl
  query_append text := by
    rw [percentUrls_append]
    exact PlainUrl.query_appended text
  value_query url text query := by
    have kept : '&' ∉ text.flatMap escapeCharacter := notMem_escape text (by decide)
    have single : '&' ∉ kOriginalUrlKey ++ '=' :: text.flatMap escapeCharacter := by
      simp [kOriginalUrlKey, kept]
    have own : url.query = kOriginalUrlKey ++ '=' :: text.flatMap escapeCharacter := query
    simp only [percentUrls, own]
    rw [List.splitOn_eq_singleton single]
    simp [kOriginalUrlKey, unescapeText_escape]

def targetUrl : PlainUrl := ⟨"http://www.1.com/?query=special%26chars".toList⟩

theorem isPlaceholderUrl_iff_placeholderOf_percent :
    percentUrls.extractTargetURL (percentUrls.createRedirectUrl targetUrl) =
        some (some targetUrl) ∧
      (percentUrls.isPlaceholderUrl ⟨"about:blank?for=a%2Fb".toList⟩ = true ↔
        ∃ spec, percentUrls.placeholderOf spec = ⟨"about:blank?for=a%2Fb".toList⟩) := by
  obtain ⟨reads, places⟩ :=
    UrlLibrary.isPlaceholderUrl_iff_placeholderOf percentUrls percentUrls_lawful
  refine ⟨(reads targetUrl (by decide)).1, (places _).1.mpr fun _ _ => ?_⟩
  exact ⟨by decide, "a/b".toList, by decide⟩

/-- Pages that format something, and blank pages of the other path, are taken for placeholders. -/
theorem isPlaceholderUrl_format :
    percentUrls.Lawful ∧
      ∀ page ∈ ["about:blank?format=1", "about:blank/?for=x"],
        ¬ (percentUrls.isPlaceholderUrl ⟨page.toList⟩ = true ↔
          ∃ spec, percentUrls.placeholderOf spec = ⟨page.toList⟩) := by
  refine ⟨percentUrls_lawful, fun page mem exactly => ?_⟩
  have isPlaceholder : ∀ page ∈ ["about:blank?format=1", "about:blank/?for=x"],
      percentUrls.isPlaceholderUrl ⟨page.toList⟩ = true := by
    decide
  obtain ⟨spec, made⟩ := exactly.mp (isPlaceholder page mem)
  have text : kAboutBlankURL ++ '?' :: kOriginalUrlKey ++ '=' :: spec.flatMap escapeCharacter =
      page.toList :=
    congrArg PlainUrl.text made
  have other : ∀ page ∈ ["about:blank?format=1", "about:blank/?for=x"],
      page.toList.take 16 ≠ "about:blank?for=".toList := by
    decide
  apply other page mem
  rw [← text]
  rfl

end ChromiumIos.WKNavigationUtil
