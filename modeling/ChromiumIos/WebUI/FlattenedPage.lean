import ChromiumIos.WebUI.PageImports
import ChromiumIos.WebUI.PageTags

/-!
# Pages with their resources in place of their tags

The URL strings of the tags are resolved by replacing them in the text of the page, in which they
are searched no further than the page was long at first.  If each of them is found in its own tags
and nowhere else, the tags with the resolved URLs are found in their places, and the resources take
these places.
-/

namespace ChromiumIos

open Lib

namespace CRWWebUIPageBuilder

variable {Url : Type}

/-! ## Resolving -/

variable {text string : Text} {kind : TagKind} (web : WebUIResources Url) (HTML : Text)
  (pageURL : Url)

def resolvedTag (done : List Text) (kind : TagKind) (URLString : Text) : Text :=
  kind.linkTag (if URLString ∈ done then web.spec (web.resolve pageURL URLString) else URLString)

def resolvedPage (done : List Text) : Text :=
  (pieces HTML).flatMap (shown (resolvedTag web pageURL done))

def urlMarks (done : List Text) (URLString : Text) : Piece → List (Option Text)
  | .unit letter => [some [letter]]
  | .tag kind _ other =>
    if other = URLString then [some kind.tagPrefix, none, some kind.suffix]
    else [some (resolvedTag web pageURL done kind other)]

/-- When a URL string is replaced the page is not shorter than it was at first, and the string
occurs within the first length of the page in its own tags, all of them, and nowhere else. -/
def ReplacesInPlace (order : List Text) : Prop :=
  ∀ done URLString rest, order = done ++ URLString :: rest → URLString ≠ kWebUIJSURL →
    web.spec (web.resolve pageURL URLString) ≠ URLString →
      HTML.length ≤ (resolvedPage web HTML pageURL done).length ∧
      OccursAtMarks URLString HTML.length
        ((pieces HTML).flatMap (urlMarks web pageURL done URLString))

variable {web : WebUIResources Url} {HTML : Text} {pageURL : Url} {order done : List Text}
variable {URLString : Text} {page : List Piece}

theorem flatMap_shown_congr {first second : TagKind → Text → Text}
    (same : ∀ kind spelling URLString, .tag kind spelling URLString ∈ page →
      first kind URLString = second kind URLString) :
    page.flatMap (shown first) = page.flatMap (shown second) := by
  apply List.flatMap_congr
  intro piece mem
  cases piece <;> grind [shown]

theorem fillMarks_append {first second : List (Option Text)} :
    fillMarks string (first ++ second) = fillMarks string first ++ fillMarks string second :=
  List.flatMap_append

/-- With anything at the marks the page has this in the tags with the URL string. -/
theorem fillMarks_urlMarks (string : Text) :
    fillMarks string (page.flatMap (urlMarks web pageURL done URLString)) =
      page.flatMap (shown fun kind other =>
        if other = URLString then kind.linkTag string else resolvedTag web pageURL done kind other)
    := by
  induction page with
  | nil => rfl
  | cons piece _ ih =>
    rw [List.flatMap_cons, List.flatMap_cons, fillMarks_append, ih]
    congr 1
    cases piece <;> grind [fillMarks, urlMarks, shown, TagKind.linkTag, resolvedTag]

theorem fillMarks_string (new : URLString ∉ done) :
    fillMarks URLString ((pieces HTML).flatMap (urlMarks web pageURL done URLString)) =
      resolvedPage web HTML pageURL done := by
  rw [fillMarks_urlMarks]
  apply flatMap_shown_congr
  intro kind spelling other _
  split
  · next same =>
      rw [same, resolvedTag, if_neg new]
  · rfl

theorem fillMarks_spec :
    fillMarks (web.spec (web.resolve pageURL URLString))
        ((pieces HTML).flatMap (urlMarks web pageURL done URLString)) =
      resolvedPage web HTML pageURL (done ++ [URLString]) := by
  rw [fillMarks_urlMarks]
  apply flatMap_shown_congr
  unfold resolvedTag
  grind

/-- A URL string that is resolved to itself makes no difference. -/
theorem resolvedPage_concat (same : web.spec (web.resolve pageURL URLString) = URLString) :
    resolvedPage web HTML pageURL (done ++ [URLString]) = resolvedPage web HTML pageURL done := by
  apply flatMap_shown_congr
  unfold resolvedTag
  grind

/-- The URL string is replaced in its own tags. -/
theorem resolveInHTML_eq {build : PageBuild Url} {rest : List Text}
    (inPlace : ReplacesInPlace web HTML pageURL order) (split : order = done ++ URLString :: rest)
    (nodup : order.Nodup) (some : URLString ≠ []) (other : URLString ≠ kWebUIJSURL)
    (samePage : build.HTML = HTML) (sameURL : build.pageURL = pageURL)
    (text : build.webUIHTML = resolvedPage web HTML pageURL done) :
    build.resolveInHTML web URLString =
      .some (resolvedPage web HTML pageURL (done ++ [URLString])) := by
  unfold PageBuild.resolveInHTML
  rw [samePage, sameURL, text]
  dsimp only
  split
  · next differs =>
      obtain ⟨inRange, occurs⟩ := inPlace done URLString rest split other differs
      unfold replaceOccurrences
      grind [dcheck_of, fillMarks_string, replaceAll_take_of_occursAtMarks, fillMarks_spec]
  · next same => rw [resolvedPage_concat (not_not.mp same)]

/-! ## Tags -/

/-- The tags of the page are written as the builder writes them, the patterns find no others, and
their URLs are clean and have the extensions of their kinds. -/
structure TagsAsWritten (web : WebUIResources Url) (HTML : Text) (pageURL : Url) : Prop where
  spelled : ∀ kind spelling URLString, .tag kind spelling URLString ∈ pieces HTML →
    spelling = kind.linkTag URLString
  apart : ∀ (kind : TagKind) URLString,
    URLString ∈ groupsFrom kind.tagPrefix kind.suffix 0 HTML ↔
      ∃ spelling, .tag kind spelling URLString ∈ pieces HTML
  clean : ∀ kind spelling URLString, .tag kind spelling URLString ∈ pieces HTML →
    CleanURL (web.spec (web.resolve pageURL URLString))
  kinds : ∀ kind spelling URLString, .tag kind spelling URLString ∈ pieces HTML →
    (isCSSSubresourceURL web (web.resolve pageURL URLString) = true ↔ kind = .stylesheet)

/-- The kind of the tags in whose places a resource goes. -/
def kindOf (web : WebUIResources Url) (url : Url) : TagKind :=
  if isCSSSubresourceURL web url then .stylesheet else .script

theorem flattenResource_eq (HTML : Text) (entry : Url × Text) :
    flattenResource web HTML entry =
      replaceAll ((kindOf web entry.1).linkTag (web.spec entry.1))
        ((kindOf web entry.1).inlinedText entry.2) HTML := by
  unfold flattenResource kindOf
  split <;> rfl

theorem ne_linkTag (clean : CleanURL URLString) (noTags : HasNoTags text) :
    text ≠ kind.linkTag URLString := by
  grind [noTags _ (List.suffix_refl _) kind, matchAt_isSome, clean.oneLine]

theorem TagsAsWritten.kindOf_eq (written : TagsAsWritten web HTML pageURL) {spelling : Text}
    (mem : .tag kind spelling URLString ∈ pieces HTML) :
    kindOf web (web.resolve pageURL URLString) = kind := by
  have kinds := written.kinds kind spelling URLString mem
  unfold kindOf
  cases kind <;> grind

/-- A page whose tags are written as the builder writes them has no tags between its tags. -/
theorem TagsAsWritten.clearBetween (written : TagsAsWritten web HTML pageURL) :
    ClearBetween (pieces HTML) := by
  intro before letter after split kind URLString clean starts
  have spelled : after.flatMap Piece.spelled = after.flatMap (shown TagKind.linkTag) := by
    apply List.flatMap_congr
    intro piece mem
    cases piece with
    | unit _ => rfl
    | tag kind spelling URLString =>
      apply written.spelled kind spelling URLString
      simp [split, mem]
  have none := matchAt_of_unit split kind
  grind [matchAt_isSome, clean.oneLine]

/-- Before anything is resolved the page is as it was. -/
theorem resolvedPage_nil (written : TagsAsWritten web HTML pageURL) :
    resolvedPage web HTML pageURL [] = HTML := by
  have whole := piecesFrom_flatMap 0 HTML
  refine Eq.trans ?_ whole
  apply List.flatMap_congr
  intro piece mem
  cases piece with
  | unit _ => rfl
  | tag kind spelling string => exact (written.spelled kind spelling string mem).symm

variable [LinearOrder Url]

/-! ## What the page should be -/

/-- The text of a resource; that of the messaging script is not fetched. -/
def resourceText (web : WebUIResources Url) (url : Url) : Text :=
  if url = web.webUIJSURL then web.webUIJavaScript else web.resource url

def inlinedTag (web : WebUIResources Url) (pageURL : Url) (kind : TagKind) (URLString : Text) :
    Text :=
  kind.inlinedText (resourceText web (web.resolve pageURL URLString))

def inlinedPage (web : WebUIResources Url) (HTML : Text) (pageURL : Url) : Text :=
  (pieces HTML).flatMap (shown (inlinedTag web pageURL))

/-- In every run that takes the URL strings in an order, nothing is replaced out of range, and the
page that is handed over has the resources in place of its tags. -/
def InlinesTags (web : WebUIResources Url) (HTML : Text) (pageURL : Url) (order : List Text) :
    Prop :=
  ∀ outputs build, Runs (PageBuild.step web) (PageBuild.Accepts web)
      (buildWebUIPageForHTML HTML pageURL order).1 outputs build →
    (build.Accepts web .proceed → (build.proceed web).isSome = true) ∧
    ∀ page, .finished page ∈ (buildWebUIPageForHTML HTML pageURL order).2 ++ outputs →
      page = inlinedPage web HTML pageURL

/-! ## What is relied on -/

/-- A URL is known by its spec, and that of the messaging script is resolved to itself. -/
structure CanonicalURLs (web : WebUIResources Url) (pageURL : Url) : Prop where
  injective : Function.Injective web.spec
  resolved : web.resolve pageURL kWebUIJSURL = web.webUIJSURL
  spec : web.spec web.webUIJSURL = kWebUIJSURL

/-- The resources of the tags of a page contain neither tags nor imports. -/
structure PlainResources (web : WebUIResources Url) (HTML : Text) (pageURL : Url) : Prop where
  noImports : ∀ kind spelling URLString, .tag kind spelling URLString ∈ pieces HTML →
    importStrings web (web.resolve pageURL URLString) = some []
  noTags : ∀ kind spelling URLString, .tag kind spelling URLString ∈ pieces HTML →
    HasNoTags (inlinedTag web pageURL kind URLString)

/-! ## Flattening -/

/-- A tag when the URL strings have been resolved and some resources have taken their places. -/
def flattenedTag (web : WebUIResources Url) (pageURL : Url) (done : List Url) (kind : TagKind)
    (URLString : Text) : Text :=
  if web.resolve pageURL URLString ∈ done then inlinedTag web pageURL kind URLString
  else kind.linkTag (web.spec (web.resolve pageURL URLString))

/-- A resource takes the places of its tags. -/
theorem flattenResource_flattened {entry : Url × Text} {done : List Url}
    (canonical : CanonicalURLs web pageURL) (written : TagsAsWritten web HTML pageURL)
    (plain : PlainResources web HTML pageURL) (clean : CleanURL (web.spec entry.1))
    (value : entry.2 = resourceText web entry.1) :
    flattenResource web ((pieces HTML).flatMap (shown (flattenedTag web pageURL done))) entry =
      (pieces HTML).flatMap (shown (flattenedTag web pageURL (done ++ [entry.1]))) := by
  rw [flattenResource_eq, replaceAll_shown clean written.clearBetween]
  · apply flatMap_shown_congr
    intro kind spelling URLString mem
    have noTags := plain.noTags kind spelling URLString mem
    by_cases inlined : web.resolve pageURL URLString ∈ done
    · have now : flattenedTag web pageURL done kind URLString =
          inlinedTag web pageURL kind URLString := if_pos inlined
      have later : flattenedTag web pageURL (done ++ [entry.1]) kind URLString =
          inlinedTag web pageURL kind URLString := if_pos (List.mem_append_left _ inlined)
      rw [now, later, if_neg (ne_linkTag clean noTags)]
    have now : flattenedTag web pageURL done kind URLString =
      kind.linkTag (web.spec (web.resolve pageURL URLString)) := if_neg inlined
    by_cases same : web.resolve pageURL URLString = entry.1
    · have later : flattenedTag web pageURL (done ++ [entry.1]) kind URLString =
          inlinedTag web pageURL kind URLString :=
        if_pos (same ▸ List.mem_append_right _ List.mem_cons_self)
      have ofKind := written.kindOf_eq mem
      rw [now, later, inlinedTag, same] at *
      rw [ofKind, if_pos rfl, value]
    · have later : flattenedTag web pageURL (done ++ [entry.1]) kind URLString =
          kind.linkTag (web.spec (web.resolve pageURL URLString)) :=
        if_neg (by simp [inlined, same])
      rw [now, later, if_neg]
      intro equal
      have cleanTag := written.clean kind spelling URLString mem
      have starts : kind.linkTag (web.spec (web.resolve pageURL URLString)) <+:
          (kindOf web entry.1).linkTag (web.spec entry.1) ++ [] := ⟨[], congrArg (· ++ []) equal⟩
      exact same (canonical.injective (linkTag_inj cleanTag clean starts).2)
  · intro kind spelling URLString mem
    unfold flattenedTag
    split
    · exact ⟨opens_inlinedText kind _, shields_inlinedText clean _ (plain.noTags _ _ _ mem)⟩
    · exact ⟨opens_linkTag kind _, shields_linkTag clean (written.clean _ _ _ mem) _ _⟩

theorem foldl_flattenResource {entries : List (Url × Text)} {done : List Url}
    (canonical : CanonicalURLs web pageURL) (written : TagsAsWritten web HTML pageURL)
    (plain : PlainResources web HTML pageURL)
    (clean : ∀ entry ∈ entries, CleanURL (web.spec entry.1))
    (values : ∀ entry ∈ entries, entry.2 = resourceText web entry.1) :
    entries.foldl (flattenResource web)
        ((pieces HTML).flatMap (shown (flattenedTag web pageURL done))) =
      (pieces HTML).flatMap (shown (flattenedTag web pageURL (done ++ entries.map Prod.fst))) := by
  induction entries generalizing done with
  | nil =>
    simp
  | cons entry _ ih =>
    rw [List.foldl_cons, flattenResource_flattened canonical written plain
      (clean entry List.mem_cons_self) (values entry List.mem_cons_self),
      ih (fun other mem => clean other (List.mem_cons_of_mem _ mem))
        fun other mem => values other (List.mem_cons_of_mem _ mem), List.append_assoc]
    rfl

theorem cleanURL_webUIJSURL : CleanURL kWebUIJSURL where
  quotes := by decide
  angles := by decide
  oneLine := by decide

/-- When all URL strings have been resolved and all resources are there, flattening puts the
resources in the places of the tags. -/
theorem flattenHTML_eq {subresources : List (Url × Text)} (canonical : CanonicalURLs web pageURL)
    (written : TagsAsWritten web HTML pageURL) (plain : PlainResources web HTML pageURL)
    (tags : ∀ string, string ∈ order ↔ ∃ kind spelling, .tag kind spelling string ∈ pieces HTML)
    (sorted : SortedByKey subresources)
    (values : ∀ entry ∈ subresources, entry.2 = web.resource entry.1)
    (loaded : ∀ url, url ∈ subresources.map Prod.fst ↔
      ∃ string ∈ order, string ≠ kWebUIJSURL ∧ web.resolve pageURL string = url) :
    flattenHTML web (resolvedPage web HTML pageURL order) subresources =
      inlinedPage web HTML pageURL := by
  have resolved : resolvedPage web HTML pageURL order =
      (pieces HTML).flatMap (shown (flattenedTag web pageURL [])) := by
    apply flatMap_shown_congr
    unfold resolvedTag flattenedTag
    grind
  unfold flattenHTML
  rw [resolved, foldl_flattenResource canonical written plain]
  · apply flatMap_shown_congr
    intro kind spelling string mem
    apply if_pos
    rw [List.nil_append, List.mem_map]
    by_cases messaging : string = kWebUIJSURL
    · refine ⟨_, (mem_assign sorted).mpr (.inl rfl), ?_⟩
      rw [messaging, canonical.resolved]
    · have own := (tags string).mpr ⟨kind, spelling, mem⟩
      obtain ⟨entry, inside, key⟩ := List.mem_map.mp ((loaded _).mpr ⟨string, own, messaging, rfl⟩)
      by_cases same : entry.1 = web.webUIJSURL
      · exact ⟨_, (mem_assign sorted).mpr (.inl rfl), same.symm.trans key⟩
      · grind [mem_assign]
  · grind [mem_assign, cleanURL_webUIJSURL, List.mem_map_of_mem, canonical.spec, written.clean]
  · intro entry mem
    unfold resourceText
    rcases (mem_assign sorted).mp mem with rfl | ⟨inside, other⟩ <;> grind

/-! ## Runs -/

/-- The resources that have been asked for. -/
def PageBuild.requested (build : PageBuild Url) : List Url :=
  build.inFlight ++ build.handlers.map SubresourceHandler.subresourceURL ++
    build.subresources.map Prod.fst

/-- What a build has gathered when some URL strings have been resolved. -/
structure Gathered (web : WebUIResources Url) (HTML : Text) (pageURL : Url) (done : List Text)
    (build : PageBuild Url) : Prop where
  samePage : build.HTML = HTML
  sameURL : build.pageURL = pageURL
  text : build.pendingSubresourceCount ≠ 0 → build.webUIHTML = resolvedPage web HTML pageURL done
  noImports : ∀ handler ∈ build.handlers, handler.URLStrings = []
  sorted : SortedByKey build.subresources
  values : ∀ entry ∈ build.subresources, entry.2 = web.resource entry.1
  requested : ∀ url, url ∈ build.requested ↔
    ∃ string ∈ done, string ≠ kWebUIJSURL ∧ web.resolve pageURL string = url

/-- What is known of a page whose URL strings are taken in an order. -/
structure Resolvable (web : WebUIResources Url) (HTML : Text) (pageURL : Url)
    (order : List Text) : Prop where
  canonical : CanonicalURLs web pageURL
  written : TagsAsWritten web HTML pageURL
  plain : PlainResources web HTML pageURL
  inPlace : ReplacesInPlace web HTML pageURL order
  nodup : order.Nodup
  notEmpty : [] ∉ order
  tags : ∀ string, string ∈ order ↔ ∃ kind spelling, .tag kind spelling string ∈ pieces HTML

variable {build after : PageBuild Url} {log emitted : List (BuildEvent Url)}

/-- After the last resource the page is handed over as it should be. -/
theorem Gathered.countDown {ended : PageBuild Url} (known : Resolvable web HTML pageURL order)
    (gathered : Gathered web HTML pageURL done ended) (split : order = done ++ ended.URLStrings)
    (count : ended.pendingSubresourceCount = ended.inFlight.length + ended.loops + 1)
    (counted : ended.countDown web = (after, emitted)) :
    Gathered web HTML pageURL done after ∧ order = done ++ after.URLStrings ∧
      ∀ page, .finished page ∈ emitted → page = inlinedPage web HTML pageURL := by
  have text := gathered.text (by omega)
  unfold PageBuild.countDown at counted
  dsimp only at counted
  split at counted <;> cases counted
  · next none =>
      refine ⟨⟨gathered.samePage, gathered.sameURL, fun some => absurd none some,
        gathered.noImports, gathered.sorted, gathered.values, gathered.requested⟩, split,
        fun page mem => ?_⟩
      have landed : ended.inFlight = [] := List.length_eq_zero_iff.mp (by omega)
      have noLoops : ended.handlers.length + ended.URLStrings.length = 0 := by
        have : ended.loops = 0 := by omega
        exact this
      have noHandlers : ended.handlers = [] := List.length_eq_zero_iff.mp (by omega)
      have noStrings : ended.URLStrings = [] := List.length_eq_zero_iff.mp (by omega)
      have all : order = done := by rw [split, noStrings, List.append_nil]
      have loaded := gathered.requested
      simp only [PageBuild.requested, landed, noHandlers, List.map_nil, List.nil_append] at loaded
      rw [text, ← all, flattenHTML_eq known.canonical known.written known.plain known.tags
        gathered.sorted gathered.values (all ▸ loaded)] at mem
      simpa using mem
  · next some =>
      exact ⟨⟨gathered.samePage, gathered.sameURL, fun _ => text, gathered.noImports,
        gathered.sorted, gathered.values, gathered.requested⟩, split, nofun⟩

variable (gathered : Gathered web HTML pageURL done build)
include gathered

/-- A handler that ends leaves its resource. -/
theorem Gathered.ended {sourceURL : Url} {handlers : List (SubresourceHandler Url)}
    (innermost : build.handlers = ⟨sourceURL, []⟩ :: handlers) :
    Gathered web HTML pageURL done { build with
      subresources := assign sourceURL (web.resource sourceURL) build.subresources
      handlers := handlers } where
  samePage := gathered.samePage
  sameURL := gathered.sameURL
  text := gathered.text
  noImports handler mem :=
    gathered.noImports handler (innermost ▸ List.mem_cons_of_mem _ mem)
  sorted := sorted_assign gathered.sorted
  values entry mem := by
    rcases (mem_assign gathered.sorted).mp mem with rfl | ⟨inside, -⟩
    · rfl
    · exact gathered.values entry inside
  requested url := by
    rw [← gathered.requested url]
    simp only [PageBuild.requested, List.mem_append, mem_keys_assign gathered.sorted, innermost,
      List.map_cons, List.mem_cons]
    tauto

omit gathered

/-- The messaging script is not asked for. -/
theorem Gathered.skipped (canonical : CanonicalURLs web pageURL)
    (gathered : Gathered web HTML pageURL done build) (strings : List Text) :
    Gathered web HTML pageURL (done ++ [kWebUIJSURL]) { build with URLStrings := strings } where
  samePage := gathered.samePage
  sameURL := gathered.sameURL
  text some := by
    rw [resolvedPage_concat]
    · exact gathered.text some
    · rw [canonical.resolved, canonical.spec]
  noImports := gathered.noImports
  sorted := gathered.sorted
  values := gathered.values
  requested url := by
    refine (gathered.requested url).trans ?_
    simp

include gathered

/-- A URL string that has been resolved is asked for. -/
theorem Gathered.fetched (other : string ≠ kWebUIJSURL) (strings : List Text) :
    Gathered web HTML pageURL (done ++ [string]) { build with
      webUIHTML := resolvedPage web HTML pageURL (done ++ [string])
      URLStrings := strings
      inFlight := web.resolve build.pageURL string :: build.inFlight } where
  samePage := gathered.samePage
  sameURL := gathered.sameURL
  text _ := rfl
  noImports := gathered.noImports
  sorted := gathered.sorted
  values := gathered.values
  requested url := by
    grind [PageBuild.requested, gathered.requested url, gathered.sameURL]

/-- A fetch that completes is still one that was asked for, and imports nothing. -/
theorem Gathered.completed {url : Url} (flying : url ∈ build.inFlight) :
    Gathered web HTML pageURL done { build with
      handlers := ⟨url, []⟩ :: build.handlers
      inFlight := build.inFlight.erase url } where
  samePage := gathered.samePage
  sameURL := gathered.sameURL
  text := gathered.text
  noImports handler mem := by
    rcases List.mem_cons.mp mem with rfl | mem
    · rfl
    · exact gathered.noImports handler mem
  sorted := gathered.sorted
  values := gathered.values
  requested other := by
    grind [PageBuild.requested, gathered.requested other]

omit gathered

variable (known : Resolvable web HTML pageURL order)
include known

include gathered

/-- Every step gathers what it should. -/
theorem Gathered.step {input : BuildInput Url} (split : order = done ++ build.URLStrings)
    (counted : Counted log build) (accepted : build.Accepts web input)
    (stepped : build.step web input = some (after, emitted)) :
    ∃ done, Gathered web HTML pageURL done after ∧ order = done ++ after.URLStrings ∧
      ∀ page, .finished page ∈ emitted → page = inlinedPage web HTML pageURL := by
  cases input with
  | complete url _ =>
    obtain ⟨flying, perm⟩ := accepted
    obtain ⟨strings, found, result⟩ := Option.map_eq_some_iff.mp stepped
    cases result
    obtain ⟨string, mem, -, own⟩ := (gathered.requested url).mp
      (List.mem_append_left _ (List.mem_append_left _ flying))
    obtain ⟨kind, spelling, tag⟩ := (known.tags string).mp (split ▸ List.mem_append_left _ mem)
    have none := known.plain.noImports kind spelling string tag
    rw [own] at none
    cases (perm [] none).eq_nil
    exact ⟨done, gathered.completed flying, split, fun _ mem => by simp at mem⟩
  | proceed =>
    change build.proceed web = some (after, emitted) at stepped
    have count := counted.pending
    unfold PageBuild.proceed at stepped
    split at stepped
    · next sourceURL string strings handlers innermost =>
        have none := gathered.noImports ⟨sourceURL, string :: strings⟩
          (innermost ▸ List.mem_cons_self)
        cases none
    · next sourceURL handlers innermost =>
        refine ⟨done, (gathered.ended innermost).countDown known split ?_
          (Option.some_inj.mp stepped)⟩
        simp only [PageBuild.loops, innermost, List.length_cons] at count ⊢
        omega
    · next none =>
        split at stepped
        · next empty => grind
        · next string strings first =>
            rw [first] at split
            have next : order = (done ++ [string]) ++ strings := by rw [split]; simp
            split at stepped
            · next messaging =>
                subst messaging
                refine ⟨_, (gathered.skipped known.canonical strings).countDown known next ?_
                  (Option.some_inj.mp stepped)⟩
                simp only [PageBuild.loops, first, List.length_cons] at count ⊢
                omega
            · next fetched =>
                have mem : string ∈ order := split ▸ List.mem_append_right _ List.mem_cons_self
                have some : build.pendingSubresourceCount ≠ 0 := by
                  simp [count, PageBuild.loops, first]
                have resolved := resolveInHTML_eq known.inPlace split known.nodup
                  (fun empty => known.notEmpty (empty ▸ mem)) fetched gathered.samePage
                  gathered.sameURL (gathered.text some)
                rw [resolved] at stepped
                cases stepped
                exact ⟨_, gathered.fetched fetched strings, next, fun _ mem => by simp at mem⟩

omit gathered

omit known

/-- The URL strings of a page are those of its tags. -/
theorem resolvable {strings : List Text} (canonical : CanonicalURLs web pageURL)
    (plain : PlainResources web HTML pageURL) (found : URLStringsFromHTML HTML = some strings)
    (perm : order.Perm strings) (written : TagsAsWritten web HTML pageURL)
    (inPlace : ReplacesInPlace web HTML pageURL order) :
    Resolvable web HTML pageURL order := by
  obtain ⟨noScript, noStylesheet⟩ := URLStringsFromHTML_isSome.mp (Option.isSome_of_eq_some found)
  obtain ⟨_, scripts, found⟩ := Option.bind_eq_some_iff.mp found
  obtain ⟨_, stylesheets, rfl⟩ := Option.map_eq_some_iff.mp found
  have tags : ∀ string, string ∈ order ↔
      ∃ kind spelling, .tag kind spelling string ∈ pieces HTML := by
    intro string
    rw [perm.mem_iff, List.mem_dedup, List.mem_append, mem_URLStringsFromResource scripts,
      mem_URLStringsFromResource stylesheets]
    constructor
    · rintro (script | stylesheet)
      · exact ⟨.script, (written.apart .script string).mp script⟩
      · exact ⟨.stylesheet, (written.apart .stylesheet string).mp stylesheet⟩
    · rintro ⟨kind, spelled⟩
      cases kind with
      | script => exact .inl ((written.apart .script string).mpr spelled)
      | stylesheet => exact .inr ((written.apart .stylesheet string).mpr spelled)
  refine ⟨canonical, written, plain, inPlace, perm.nodup_iff.mpr (List.nodup_dedup _), ?_, tags⟩
  intro empty
  obtain ⟨kind, spelled⟩ := (tags []).mp empty
  cases kind with
  | script => exact noScript ((written.apart .script []).mpr spelled)
  | stylesheet => exact noStylesheet ((written.apart .stylesheet []).mpr spelled)

include known

theorem gathered_of_start :
    Gathered web HTML pageURL [] (buildWebUIPageForHTML HTML pageURL order).1 where
  samePage := rfl
  sameURL := rfl
  text _ := (resolvedPage_nil known.written).symm
  noImports := nofun
  sorted := .nil
  values := nofun
  requested _ := ⟨nofun, fun ⟨_, mem, _⟩ => nomatch mem⟩

/-- A page without tags is handed over as it is. -/
theorem eq_inlinedPage_of_start
    (mem : .finished text ∈ (buildWebUIPageForHTML HTML pageURL order).2) :
    text = inlinedPage web HTML pageURL := by
  unfold buildWebUIPageForHTML at mem
  split at mem
  · next none =>
      cases List.mem_singleton.mp mem
      refine (resolvedPage_nil known.written).symm.trans ?_
      apply flatMap_shown_congr
      intro kind spelling string tag
      have inside := (known.tags string).mpr ⟨kind, spelling, tag⟩
      grind
  · cases mem

include gathered

/-- A turn of the loop of the page is in range. -/
theorem Gathered.returns (split : order = done ++ build.URLStrings) (counted : Counted log build) :
    (build.proceed web).isSome = true := by
  refine PageBuild.proceed_isSome_iff.mpr fun _ string first other differs => ?_
  obtain ⟨strings, left⟩ : ∃ strings, build.URLStrings = string :: strings :=
    List.head?_eq_some_iff.mp first
  have some : build.pendingSubresourceCount ≠ 0 := by
    simp [counted.pending, PageBuild.loops, left]
  rw [left] at split
  rw [gathered.sameURL] at differs
  rw [gathered.samePage, gathered.text some]
  exact (known.inPlace done string strings split other differs).1

omit gathered

omit known

/-- Where the tags are written as the builder writes them, and each URL string is found in its own
tags and nowhere else when it is replaced, the page is handed over with the resources in the places
of its tags. -/
theorem inlinesTags_of_replacesInPlace {strings : List Text} (canonical : CanonicalURLs web pageURL)
    (plain : PlainResources web HTML pageURL) (found : URLStringsFromHTML HTML = some strings)
    (perm : order.Perm strings) (written : TagsAsWritten web HTML pageURL)
    (inPlace : ReplacesInPlace web HTML pageURL order) : InlinesTags web HTML pageURL order := by
  have known := resolvable canonical plain found perm written inPlace
  intro outputs build run
  have reached : ∃ done, Gathered web HTML pageURL done build ∧ order = done ++ build.URLStrings ∧
      ∀ text, .finished text ∈ (buildWebUIPageForHTML HTML pageURL order).2 ++ outputs →
        text = inlinedPage web HTML pageURL := by
    apply run.invariant_outputs fun outputs build => ∃ done, Gathered web HTML pageURL done build ∧
      order = done ++ build.URLStrings ∧
      ∀ text, .finished text ∈ (buildWebUIPageForHTML HTML pageURL order).2 ++ outputs →
        text = inlinedPage web HTML pageURL
    · refine ⟨[], gathered_of_start known, rfl, fun text mem => ?_⟩
      rw [List.append_nil] at mem
      exact eq_inlinedPage_of_start known mem
    · rintro outputs build after input emitted before ⟨done, gathered, split, right⟩ accepted
        stepped
      have builds : Builds web HTML pageURL _ build :=
        ⟨strings, order, outputs, found, perm, before, rfl⟩
      obtain ⟨next, following, left, handed⟩ :=
        gathered.step known split builds.counted accepted stepped
      grind
  obtain ⟨_, gathered, split, right⟩ := reached
  have builds : Builds web HTML pageURL _ build :=
    ⟨strings, order, outputs, found, perm, run, rfl⟩
  exact ⟨fun _ => gathered.returns known split builds.counted, right⟩

/-! ## Two scripts -/

/-- A page, two scripts next to it, and the messaging script; the last stands for no URL. -/
def twoScripts : WebUIResources (Fin 5) where
  resolve _ string :=
    if string = textOf "a.js" then 1
    else if string = textOf "b.js" then 2
    else if string = kWebUIJSURL then 3
    else 4
  spec
    | 0 => textOf "chrome://page/"
    | 1 => textOf "chrome://page/a.js"
    | 2 => textOf "chrome://page/b.js"
    | 3 => kWebUIJSURL
    | 4 => []
  extension
    | 0 | 4 => []
    | _ => textOf ".js"
  webUIJSURL := 3
  webUIJavaScript := []
  resource url := if url = 1 then textOf "a" else textOf "b"

def pageWithTwoScripts : Text :=
  textOf "<script src=\"a.js\"></script><script src=\"b.js\"></script>"

theorem pieces_pageWithTwoScripts : pieces pageWithTwoScripts =
    [.tag .script (TagKind.script.linkTag (textOf "a.js")) (textOf "a.js"),
      .tag .script (TagKind.script.linkTag (textOf "b.js")) (textOf "b.js")] := by
  decide +kernel

/-- The second URL string is resolved first. -/
theorem replacesInPlace_secondFirst :
    ReplacesInPlace twoScripts pageWithTwoScripts 0 [textOf "b.js", textOf "a.js"] := by
  intro done string rest split _ _
  have turns : done = [] ∧ string = textOf "b.js" ∨
      done = [textOf "b.js"] ∧ string = textOf "a.js" := by
    rcases done with _ | ⟨first, _ | ⟨second, others⟩⟩
    · simp at split
      exact .inl ⟨rfl, split.1.symm⟩
    · simp at split
      exact .inr ⟨by rw [split.1], split.2.1.symm⟩
    · simp at split
  rw [pieces_pageWithTwoScripts]
  obtain ⟨rfl, rfl⟩ | ⟨rfl, rfl⟩ := turns
  · exact ⟨by decide +kernel, occursAtMarks_of_lt (by decide +kernel) (by decide +kernel)⟩
  · exact ⟨by decide +kernel, occursAtMarks_of_lt (by decide +kernel) (by decide +kernel)⟩

theorem inlinesTags_secondFirst :
    InlinesTags twoScripts pageWithTwoScripts 0 [textOf "b.js", textOf "a.js"] := by
  have only : ∀ {kind spelling string}, .tag kind spelling string ∈ pieces pageWithTwoScripts →
      kind = .script ∧ spelling = TagKind.script.linkTag string ∧
        (string = textOf "a.js" ∨ string = textOf "b.js") := by
    rw [pieces_pageWithTwoScripts]
    grind
  have found : URLStringsFromHTML pageWithTwoScripts = some [textOf "a.js", textOf "b.js"] := by
    decide +kernel
  have injective : ∀ first second, twoScripts.spec first = twoScripts.spec second →
      first = second := by decide
  have noTags : ∀ text ∈ [textOf "a", textOf "b"], ∀ part ∈ (scriptText text).tails,
      ∀ kind ∈ [TagKind.script, .stylesheet], kind.matchAt part = none := by decide
  have groups : groupsFrom kJSTagPrefix kJSTagSuffix 0 pageWithTwoScripts =
        [textOf "a.js", textOf "b.js"] ∧
      groupsFrom kCSSTagPrefix kCSSTagSuffix 0 pageWithTwoScripts = [] := by decide +kernel
  refine inlinesTags_of_replacesInPlace ⟨fun _ _ => injective _ _, rfl, rfl⟩ ⟨?_, ?_⟩ found
    (List.Perm.swap _ _ _) ⟨?_, ?_, ?_, ?_⟩ replacesInPlace_secondFirst
  · intro kind spelling string mem
    obtain ⟨rfl, rfl, rfl | rfl⟩ := only mem <;> decide
  · intro kind spelling string mem part suffix other
    have both : other ∈ [TagKind.script, .stylesheet] := by cases other <;> decide
    have within := (List.mem_tails part _).mpr suffix
    obtain ⟨rfl, rfl, rfl | rfl⟩ := only mem
    · exact noTags (textOf "a") (by decide) part within other both
    · exact noTags (textOf "b") (by decide) part within other both
  · intro kind spelling string mem
    obtain ⟨rfl, rfl, -⟩ := only mem
    rfl
  · intro kind string
    rw [pieces_pageWithTwoScripts]
    cases kind with
    | script =>
      grind [TagKind.tagPrefix, TagKind.suffix]
    | stylesheet =>
      grind [TagKind.tagPrefix, TagKind.suffix]
  · intro kind spelling string mem
    obtain ⟨rfl, rfl, rfl | rfl⟩ := only mem <;> exact ⟨by decide, by decide, by decide⟩
  · intro kind spelling string mem
    obtain ⟨rfl, rfl, rfl | rfl⟩ := only mem <;> decide

/-- The URL string of the second tag is beyond the range when the first one has been resolved. -/
theorem not_inlinesTags_pageWithTwoScripts :
    ¬ InlinesTags twoScripts pageWithTwoScripts 0 [textOf "a.js", textOf "b.js"] := by
  let start := (buildWebUIPageForHTML pageWithTwoScripts (0 : Fin 5)
    [textOf "a.js", textOf "b.js"]).1
  have replayed : (replay? (PageBuild.step twoScripts) (PageBuild.Accepts twoScripts) start
      [.proceed, .complete 1 [], .proceed, .proceed, .complete 2 [], .proceed]).map Prod.snd =
    some [.fetched 1, .loaded 1, .fetched 2, .loaded 2,
      .finished (textOf "<script>a</script><script src=\"b.js\"></script>")] := by
    decide +kernel
  obtain ⟨⟨last, outputs⟩, replayed, same⟩ := Option.map_eq_some_iff.mp replayed
  intro inlines
  have page := (inlines outputs last (Runs.replay _ .start replayed)).2
    (textOf "<script>a</script><script src=\"b.js\"></script>")
  rw [show outputs = _ from same] at page
  exact absurd (page (by simp)) (by decide +kernel)

end CRWWebUIPageBuilder

end ChromiumIos
