import ChromiumIos.Lib.Runs
import ChromiumIos.Lib.SortedMap
import ChromiumIos.WebUI.PageText

/-!
# Building a page from its resources

The builder of a page fetches what the tags of the page name, and what the style sheets that it
gets import, and puts the texts in place of the tags when nothing is left to wait for.

A fetch may complete as soon as it is issued, in the middle of the loop that has issued it, or
at any time later.  The loops that run at one time are those of the handlers of completed
fetches, the latest first, and below them that of the page itself.
-/

namespace ChromiumIos

open Lib

namespace CRWWebUIPageBuilder

/-- What is known of URLs, and what the delegate fetches.  A URL that is resolved without a result
is one of the URLs. -/
structure WebUIResources (Url : Type) where
  resolve : Url → Text → Url
  spec : Url → Text
  /-- The extension of the name of the file. -/
  extension : Url → Text
  webUIJSURL : Url
  webUIJavaScript : Text
  resource : Url → Text

/-- A completion handler that has not returned, with the URL strings that its loop has left. -/
structure SubresourceHandler (Url : Type) where
  subresourceURL : Url
  URLStrings : List Text
deriving DecidableEq

/-- What the handlers of one page share, and the URL strings that the loop of the page has left. -/
structure PageBuild (Url : Type) where
  HTML : Text
  pageURL : Url
  webUIHTML : Text
  pendingSubresourceCount : Nat
  subresources : List (Url × Text)
  handlers : List (SubresourceHandler Url)
  URLStrings : List Text
  inFlight : List Url
deriving DecidableEq

inductive BuildEvent (Url : Type) where
  | fetched (url : Url)
  | loaded (url : Url)
  | finished (HTML : Text)
deriving DecidableEq

/-- The loop that runs goes on, or a fetch completes, whose handler looks at the imports in some
order. -/
inductive BuildInput (Url : Type) where
  | proceed
  | complete (url : Url) (order : List Text)

variable {Url : Type} [LinearOrder Url]
variable (web : WebUIResources Url) (HTML : Text) (build : PageBuild Url)

def isCSSSubresourceURL (url : Url) : Bool :=
  web.extension url = textOf ".css"

/-- The URL strings in the imports of a resource, which only style sheets have. -/
def importStrings (url : Url) : Checked (List Text) :=
  if isCSSSubresourceURL web url then URLStringsFromCSS (web.resource url) else some []

def addCSSTagToHTML (url sourceURL : Url) : Text :=
  let sourceTag := kCSSTagPrefix ++ web.spec sourceURL ++ kCSSTagSuffix
  let extendedTag := kCSSTagPrefix ++ web.spec url ++ kCSSTagSuffix ++ sourceTag
  replaceAll sourceTag extendedTag HTML

/-- Put the text of a resource in place of its tags. -/
def flattenResource (entry : Url × Text) : Text :=
  if isCSSSubresourceURL web entry.1 then
    replaceAll (kCSSTagPrefix ++ web.spec entry.1 ++ kCSSTagSuffix) (styleText entry.2) HTML
  else replaceAll (kJSTagPrefix ++ web.spec entry.1 ++ kJSTagSuffix) (scriptText entry.2) HTML

def flattenHTML (subresources : List (Url × Text)) : Text :=
  (assign web.webUIJSURL web.webUIJavaScript subresources).foldl (flattenResource web) HTML

namespace PageBuild

/-- One subresource less to wait for; after the last one the page is flattened and handed over. -/
def countDown : PageBuild Url × List (BuildEvent Url) :=
  let counted := { build with pendingSubresourceCount := build.pendingSubresourceCount - 1 }
  if counted.pendingSubresourceCount = 0 then
    let flattened := flattenHTML web counted.webUIHTML counted.subresources
    ({ counted with webUIHTML := flattened }, [.finished flattened])
  else (counted, [])

def resolveInHTML (string : Text) : Checked Text :=
  let url := web.resolve build.pageURL string
  if web.spec url ≠ string then
    replaceOccurrences string (web.spec url) build.HTML.length build.webUIHTML
  else some build.webUIHTML

/-- One turn of the loop that runs, or its end. -/
def proceed : Checked (PageBuild Url × List (BuildEvent Url)) :=
  match build.handlers with
  | ⟨sourceURL, string :: strings⟩ :: handlers =>
    let url := web.resolve sourceURL string
    some ({ build with
      webUIHTML := addCSSTagToHTML web build.webUIHTML url sourceURL
      pendingSubresourceCount := build.pendingSubresourceCount + 1
      handlers := ⟨sourceURL, strings⟩ :: handlers
      inFlight := url :: build.inFlight }, [.fetched url])
  | ⟨sourceURL, []⟩ :: handlers =>
    some ({ build with
      subresources := assign sourceURL (web.resource sourceURL) build.subresources
      handlers := handlers }.countDown web)
  | [] =>
    match build.URLStrings with
    | [] => some (build, [])
    | string :: strings =>
      if string = kWebUIJSURL then some ({ build with URLStrings := strings }.countDown web)
      else
        let url := web.resolve build.pageURL string
        (build.resolveInHTML web string).map fun HTML =>
          ({ build with
            webUIHTML := HTML
            URLStrings := strings
            inFlight := url :: build.inFlight }, [.fetched url])

def step : BuildInput Url → Checked (PageBuild Url × List (BuildEvent Url))
  | .proceed => build.proceed web
  | .complete url order =>
    (importStrings web url).map fun _ =>
      ({ build with
        handlers := ⟨url, order⟩ :: build.handlers
        inFlight := build.inFlight.erase url }, [.loaded url])

/-- A loop goes on as long as there is one, and the delegate completes what was fetched; the
imports come in any order. -/
def Accepts : BuildInput Url → Prop
  | .proceed => build.handlers ≠ [] ∨ build.URLStrings ≠ []
  | .complete url order =>
    url ∈ build.inFlight ∧ ∀ strings ∈ importStrings web url, order.Perm strings

instance (input : BuildInput Url) : Decidable (build.Accepts web input) :=
  match input with
  | .proceed => inferInstanceAs (Decidable (_ ∨ _))
  | .complete url order =>
    inferInstanceAs (Decidable (url ∈ _ ∧ ∀ strings ∈ importStrings web url, order.Perm strings))

variable {web : WebUIResources Url} {build after : PageBuild Url} {input : BuildInput Url}
variable {emitted : List (BuildEvent Url)}

theorem countDown_frame (counted : build.countDown web = (after, emitted)) :
    after.HTML = build.HTML ∧ after.pageURL = build.pageURL ∧
      after.URLStrings = build.URLStrings := by
  grind [countDown]

/-- The page and its URL stay, and its loop goes from one URL string to the next. -/
theorem step_frame (stepped : build.step web input = some (after, emitted)) :
    after.HTML = build.HTML ∧ after.pageURL = build.pageURL ∧
      after.URLStrings <:+ build.URLStrings := by
  cases input with
  | complete _ _ =>
    obtain ⟨_, -, result⟩ := Option.map_eq_some_iff.mp stepped
    grind
  | proceed =>
    change build.proceed web = some (after, emitted) at stepped
    unfold proceed at stepped
    split at stepped
    · grind
    · obtain ⟨page, url, strings⟩ := countDown_frame (Option.some_inj.mp stepped)
      grind
    · split at stepped
      · grind
      · next string strings first =>
          rw [first]
          split at stepped
          · obtain ⟨page, url, left⟩ := countDown_frame (Option.some_inj.mp stepped)
            grind
          · obtain ⟨HTML, -, result⟩ := Option.map_eq_some_iff.mp stepped
            grind

end PageBuild

/-- The page before its loop, which takes the URL strings in an order; a page without any is
handed over as it is. -/
def buildWebUIPageForHTML (pageURL : Url) (order : List Text) :
    PageBuild Url × List (BuildEvent Url) :=
  ({ HTML := HTML
     pageURL := pageURL
     webUIHTML := HTML
     pendingSubresourceCount := order.length
     subresources := []
     handlers := []
     URLStrings := order
     inFlight := [] },
    if order.length = 0 then [.finished HTML] else [])

/-- What may have happened since the HTML of a page was there. -/
def Builds (pageURL : Url) (log : List (BuildEvent Url)) (build : PageBuild Url) : Prop :=
  ∃ strings order outputs, URLStringsFromHTML HTML = some strings ∧ order.Perm strings ∧
    Runs (PageBuild.step web) (PageBuild.Accepts web)
      (buildWebUIPageForHTML HTML pageURL order).1 outputs build ∧
    log = (buildWebUIPageForHTML HTML pageURL order).2 ++ outputs

namespace Builds

variable {web : WebUIResources Url} {HTML : Text} {pageURL : Url}
variable {log emitted : List (BuildEvent Url)} {build after : PageBuild Url}
variable {input : BuildInput Url}

theorem next (builds : Builds web HTML pageURL log build) (accepted : build.Accepts web input)
    (stepped : build.step web input = some (after, emitted)) :
    Builds web HTML pageURL (log ++ emitted) after := by
  obtain ⟨strings, order, outputs, found, perm, run, rfl⟩ := builds
  refine ⟨strings, order, outputs ++ emitted, found, perm, .next run accepted stepped, ?_⟩
  rw [List.append_assoc]

/-- What the start of every page has and every step keeps holds whenever a page is built. -/
theorem invariant (Holds : List (BuildEvent Url) → PageBuild Url → Prop)
    (builds : Builds web HTML pageURL log build)
    (base : ∀ strings order, URLStringsFromHTML HTML = some strings → order.Perm strings →
      Holds (buildWebUIPageForHTML HTML pageURL order).2
        (buildWebUIPageForHTML HTML pageURL order).1)
    (kept : ∀ {log build after input emitted}, Builds web HTML pageURL log build →
      Holds log build → build.Accepts web input → build.step web input = some (after, emitted) →
      Holds (log ++ emitted) after) :
    Holds log build := by
  obtain ⟨strings, order, outputs, found, perm, run, rfl⟩ := builds
  let start := buildWebUIPageForHTML HTML pageURL order
  apply run.invariant_outputs fun outputs build => Holds (start.2 ++ outputs) build
  · grind
  · intro outputs build after input emitted run holds accepted stepped
    rw [← List.append_assoc]
    exact kept ⟨strings, order, outputs, found, perm, run, rfl⟩ holds accepted stepped

theorem frame (builds : Builds web HTML pageURL log build) :
    build.HTML = HTML ∧ build.pageURL = pageURL ∧
      ∃ strings ∈ URLStringsFromHTML HTML, ∀ string ∈ build.URLStrings, string ∈ strings := by
  apply builds.invariant fun _ build => build.HTML = HTML ∧ build.pageURL = pageURL ∧
    ∃ strings ∈ URLStringsFromHTML HTML, ∀ string ∈ build.URLStrings, string ∈ strings
  · exact fun strings order found perm => ⟨rfl, rfl, strings, found, fun _ => perm.mem_iff.mp⟩
  · grind [PageBuild.step_frame]

end Builds

end CRWWebUIPageBuilder

end ChromiumIos
