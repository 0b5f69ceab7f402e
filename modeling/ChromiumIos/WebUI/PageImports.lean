import ChromiumIos.Lib.Unfolding
import ChromiumIos.WebUI.CRWWebUIPageBuilder

/-!
# Fetches that end

The builder does not remember what it has fetched.  Every import is fetched each time that the
style sheet with it has been, so that the fetches follow all the ways that lead from the page
through imports.  They come to an end exactly if none of the ways turns in a circle.
-/

namespace ChromiumIos

open Lib

namespace CRWWebUIPageBuilder

variable {Url : Type} [LinearOrder Url]

/-! ## What is left to be fetched -/

variable {visits : Url → Nat} (web : WebUIResources Url)

/-- The style sheets that a resource imports. -/
def importedURLs (url : Url) : List Url :=
  ((importStrings web url).getD []).map (web.resolve url)

/-- A resource can be reached from the page, through imports. -/
def Reaches (HTML : Text) (pageURL url : Url) : Prop :=
  ∃ strings ∈ URLStringsFromHTML HTML, ∃ string ∈ strings, string ≠ kWebUIJSURL ∧
    Relation.ReflTransGen (Lists (importedURLs web)) (web.resolve pageURL string) url

namespace PageBuild

variable (build : PageBuild Url)

/-- What the loops that run have still to fetch. -/
def ahead : List Url :=
  (build.handlers.flatMap fun handler =>
    handler.URLStrings.map (web.resolve handler.subresourceURL)) ++
  (build.URLStrings.filter (· ≠ kWebUIJSURL)).map (web.resolve build.pageURL)

/-- What has still to be loaded. -/
def owed : List Url :=
  build.inFlight ++ build.ahead web

/-- The turns that the loops can make without fetching anything, at most. -/
def loops : Nat := build.handlers.length + build.URLStrings.length

/-- What a step does to the numbers of those that are waited for. -/
inductive Moves (web : WebUIResources Url) (build after : PageBuild Url)
    (emitted : List (BuildEvent Url)) : Prop where
  | fetches (url : Url) (emits : emitted = [.fetched url])
      (inFlight : after.inFlight = url :: build.inFlight) (running : 0 < build.loops)
      (pending : after.pendingSubresourceCount + build.loops =
        build.pendingSubresourceCount + 1 + after.loops)
      (loops : after.loops ≤ build.loops) (owed : (after.owed web).Perm (build.owed web))
  | loads (url : Url) (rest : List Url) (emits : emitted = [.loaded url])
      (mem : url ∈ build.inFlight) (inFlight : after.inFlight = build.inFlight.erase url)
      (pending : after.pendingSubresourceCount = build.pendingSubresourceCount)
      (loops : after.loops = build.loops + 1) (before : (build.owed web).Perm (url :: rest))
      (owed : (after.owed web).Perm (importedURLs web url ++ rest))
  | counts (inFlight : after.inFlight = build.inFlight)
      (pending : after.pendingSubresourceCount = build.pendingSubresourceCount - 1)
      (emits : after.pendingSubresourceCount = 0 ∧ (∃ page, emitted = [.finished page]) ∨
        after.pendingSubresourceCount ≠ 0 ∧ emitted = [])
      (loops : after.loops + 1 = build.loops) (owed : after.owed web = build.owed web)

variable {web : WebUIResources Url} {build after : PageBuild Url} {input : BuildInput Url}
variable {emitted log : List (BuildEvent Url)}

theorem moves_of_fetch {url : Url} {HTML : Text} {count : Nat}
    {handlers : List (SubresourceHandler Url)} {strings : List Text} (running : 0 < build.loops)
    (counted : count + build.loops =
      build.pendingSubresourceCount + 1 + (handlers.length + strings.length))
    (fewer : handlers.length + strings.length ≤ build.loops)
    (taken : (url :: ahead web { build with handlers := handlers, URLStrings := strings }).Perm
      (build.ahead web)) :
    Moves web build { build with
      webUIHTML := HTML
      pendingSubresourceCount := count
      handlers := handlers
      URLStrings := strings
      inFlight := url :: build.inFlight } [.fetched url] := by
  refine .fetches url rfl rfl running counted fewer ?_
  refine List.Perm.trans ?_ (taken.append_left build.inFlight)
  exact List.perm_middle.symm

theorem moves_of_countDown {ended : PageBuild Url}
    (result : ended.countDown web = (after, emitted)) (inFlight : ended.inFlight = build.inFlight)
    (pending : ended.pendingSubresourceCount = build.pendingSubresourceCount)
    (fewer : ended.loops + 1 = build.loops) (owed : ended.owed web = build.owed web) :
    Moves web build after emitted := by
  unfold countDown at result
  dsimp only at result
  rw [pending] at result
  split at result <;> cases result
  · next none => exact .counts inFlight rfl (.inl ⟨none, _, rfl⟩) fewer owed
  · next more => exact .counts inFlight rfl (.inr ⟨more, rfl⟩) fewer owed

/-- What the loop that runs does in its turn. -/
theorem moves_of_proceed (running : build.handlers ≠ [] ∨ build.URLStrings ≠ [])
    (proceeded : build.proceed web = some (after, emitted)) : Moves web build after emitted := by
  unfold proceed at proceeded
  split at proceeded
  · next sourceURL string strings handlers innermost =>
      cases proceeded
      simp [loops, innermost, ahead, moves_of_fetch]
  · next sourceURL handlers innermost =>
      have result := Option.some_inj.mp proceeded
      refine moves_of_countDown result rfl rfl ?_ ?_
      · simp [loops, innermost]
        omega
      · simp [owed, ahead, innermost]
  · next none =>
      split at proceeded
      · next empty => simp [none, empty] at running
      · next string strings first =>
          split at proceeded
          · next skipped =>
              have result := Option.some_inj.mp proceeded
              refine moves_of_countDown result rfl rfl ?_ ?_
              · simp [loops, first]
                omega
              · simp [owed, ahead, first, skipped]
          · next other =>
              obtain ⟨HTML, -, result⟩ := Option.map_eq_some_iff.mp proceeded
              cases result
              apply moves_of_fetch
              · simp [loops, first]
              · simp [loops, first]
                omega
              · simp [loops, first]
              · simp [ahead, none, first, other]

theorem moves_of_step (accepted : build.Accepts web input)
    (stepped : build.step web input = some (after, emitted)) : Moves web build after emitted := by
  cases input with
  | proceed => exact moves_of_proceed accepted stepped
  | complete url order =>
    obtain ⟨mem, perm⟩ := accepted
    obtain ⟨strings, imports, result⟩ := Option.map_eq_some_iff.mp stepped
    cases result
    have listed : (order.map (web.resolve url)).Perm (importedURLs web url) := by
      simpa [importedURLs, imports] using (perm strings imports).map _
    refine .loads url (build.inFlight.erase url ++ build.ahead web) rfl mem rfl rfl ?_ ?_ ?_
    · simp [loops]
      omega
    · exact (List.perm_cons_erase mem).append_right _
    · grind [owed, ahead]

/-! ## Assertions and ranges -/

/-- The next step asserts what is so, and does not replace anything behind the end of the text. -/
def Passes (web : WebUIResources Url) (build : PageBuild Url) : BuildInput Url → Prop
  | .proceed => build.handlers = [] → ∀ string ∈ build.URLStrings.head?, string ≠ kWebUIJSURL →
      web.spec (web.resolve build.pageURL string) ≠ string →
        build.HTML.length ≤ build.webUIHTML.length
  | .complete url _ => isCSSSubresourceURL web url = true →
      [] ∉ groupsFrom (textOf "@import url(") (textOf ");") 0 (web.resource url)

theorem proceed_isSome_iff :
    (build.proceed web).isSome = true ↔ build.Passes web .proceed := by
  unfold proceed Passes
  split
  · next innermost => simp [innermost]
  · next innermost => simp [innermost]
  · next none =>
      split
      · next empty => simp [empty]
      · next string strings first =>
          by_cases skipped : string = kWebUIJSURL
          · simp [first, skipped]
          by_cases same : web.spec (web.resolve build.pageURL string) = string
          · simp [none, first, skipped, same, resolveInHTML]
          by_cases inside : build.HTML.length ≤ build.webUIHTML.length <;>
            simp [none, first, skipped, same, inside, resolveInHTML, replaceOccurrences]

/-- A step returns exactly if it passes. -/
theorem step_isSome_iff : (build.step web input).isSome = true ↔ build.Passes web input := by
  cases input with
  | proceed => exact proceed_isSome_iff
  | complete _ _ =>
    unfold step Passes importStrings
    rw [Option.isSome_map]
    split
    · next sheet =>
        refine URLStringsFromResource_isSome.trans ⟨fun without _ => without, fun without => ?_⟩
        exact without sheet
    · next other => simp [other]

end PageBuild

/-! ## What is waited for -/

def isFetched : BuildEvent Url → Bool
  | .fetched _ => true
  | _ => false

def isLoaded : BuildEvent Url → Bool
  | .loaded _ => true
  | _ => false

open PageBuild

/-- The count is that of the fetches and loops that have not come to their end, and the page is
handed over when it is zero. -/
structure Counted (log : List (BuildEvent Url)) (build : PageBuild Url) : Prop where
  pending : build.pendingSubresourceCount = build.inFlight.length + build.loops
  waiting : ∀ url, log.count (.fetched url) = log.count (.loaded url) + build.inFlight.count url
  fetches : log.countP isFetched = log.countP isLoaded + build.inFlight.length
  unfinished : build.pendingSubresourceCount ≠ 0 → ∀ page, .finished page ∉ log
  finished : build.pendingSubresourceCount = 0 → ∃ earlier page, log = earlier ++ [.finished page] ∧
    ∀ other, .finished other ∉ earlier

variable {web : WebUIResources Url} {HTML : Text} {pageURL : Url}
variable {build after : PageBuild Url} {input : BuildInput Url}
variable {log emitted : List (BuildEvent Url)}

theorem counted_of_start (order : List Text) :
    Counted (buildWebUIPageForHTML HTML pageURL order).2
      (buildWebUIPageForHTML HTML pageURL order).1 := by
  cases order with
  | nil => exact ⟨rfl, fun _ => rfl, rfl, nofun, fun _ => ⟨[], HTML, rfl, nofun⟩⟩
  | cons _ _ => exact ⟨by simp [buildWebUIPageForHTML, loops], fun _ => rfl, rfl,
      nofun, nofun⟩

theorem Counted.step (counted : Counted log build) (moves : Moves web build after emitted) :
    Counted (log ++ emitted) after := by
  obtain ⟨pending, waiting, fetches, unfinished, -⟩ := counted
  cases moves with
  | fetches _ emits inFlight _ _ _ _ =>
    have lengths := congrArg List.length inFlight
    rw [List.length_cons] at lengths
    subst emits
    refine ⟨by omega, fun other => ?_, ?_, fun _ page mem => ?_, by omega⟩
    · grind
    · grind [isFetched, isLoaded]
    · grind
  | loads _ _ emits mem inFlight _ _ _ _ =>
    have lengths := congrArg List.length inFlight
    have positive := List.length_pos_of_mem mem
    rw [List.length_erase_of_mem mem] at lengths
    subst emits
    refine ⟨by omega, fun other => ?_, ?_, fun _ page mem => ?_, by omega⟩
    · grind
    · grind [isFetched, isLoaded]
    · grind
  | counts inFlight _ emits _ _ =>
    rcases emits with ⟨none, page, rfl⟩ | ⟨more, rfl⟩
    · refine ⟨by rw [inFlight]; omega, fun other => ?_, ?_, fun more => absurd none more,
        fun _ => ⟨log, page, rfl, unfinished (by omega)⟩⟩
      · simpa [inFlight] using waiting other
      · simpa [inFlight, isFetched, isLoaded] using fetches
    · rw [List.append_nil]
      refine ⟨by rw [inFlight]; omega, by rwa [inFlight], by rwa [inFlight], fun _ => ?_, ?_⟩
      · exact unfinished (by omega)
      · exact fun none => absurd none more

theorem Builds.counted (builds : Builds web HTML pageURL log build) : Counted log build := by
  refine builds.invariant Counted (fun _ order _ _ => counted_of_start order) ?_
  intro log build after input emitted builds counted accepted stepped
  exact counted.step (moves_of_step accepted stepped)

/-! ## Ways through imports -/

/-- Everything that is owed is reached from the page. -/
theorem Builds.reaches (builds : Builds web HTML pageURL log build) :
    ∀ url ∈ build.owed web, Reaches web HTML pageURL url := by
  apply builds.invariant fun _ build => ∀ url ∈ build.owed web, Reaches web HTML pageURL url
  · grind [owed, buildWebUIPageForHTML, Reaches, ahead]
  · intro log build after input emitted _ reaches accepted stepped url mem
    cases moves_of_step accepted stepped with
    | fetches _ _ _ _ _ _ owed => exact reaches url (owed.mem_iff.mp mem)
    | counts _ _ _ _ owed => exact reaches url (owed ▸ mem)
    | loads sheet _ _ _ _ _ _ before owed =>
      rcases List.mem_append.mp (owed.mem_iff.mp mem) with imported | waiting
      · obtain ⟨strings, found, string, inside, other, path⟩ :=
          reaches sheet (before.mem_iff.mpr List.mem_cons_self)
        exact ⟨strings, found, string, inside, other, path.tail imported⟩
      · grind

/-- With the numbers of visits of all that can be reached, every run loads as often in the end. -/
theorem Builds.loaded_add_visits (unfolds : ∀ url, Reaches web HTML pageURL url →
      visits url = 1 + ((importedURLs web url).map visits).sum)
    (builds : Builds web HTML pageURL log build) :
    ∃ strings ∈ URLStringsFromHTML HTML,
      log.countP isLoaded + ((build.owed web).map visits).sum =
        ((strings.filter (· ≠ kWebUIJSURL)).map fun string =>
          visits (web.resolve pageURL string)).sum := by
  apply builds.invariant fun log build => ∃ strings ∈ URLStringsFromHTML HTML,
    log.countP isLoaded + ((build.owed web).map visits).sum =
      ((strings.filter (· ≠ kWebUIJSURL)).map fun string =>
        visits (web.resolve pageURL string)).sum
  · intro strings order found perm
    refine ⟨strings, found, ?_⟩
    have nothing : (buildWebUIPageForHTML HTML pageURL order).2.countP isLoaded = 0 := by
      unfold buildWebUIPageForHTML
      split <;> rfl
    rw [nothing, Nat.zero_add, ← ((perm.filter _).map _).sum_eq]
    simp [owed, ahead, buildWebUIPageForHTML, Function.comp_def]
  · rintro log build after input emitted builds ⟨strings, found, sum⟩ accepted stepped
    refine ⟨strings, found, ?_⟩
    rw [← sum, List.countP_append]
    cases moves_of_step accepted stepped with
    | fetches _ emits _ _ _ _ owed =>
      rw [emits, (owed.map visits).sum_eq]
      rfl
    | counts _ _ _ _ _ =>
      grind [isLoaded]
    | loads url _ emits _ _ _ _ before owed =>
      have reached := builds.reaches url (before.mem_iff.mpr List.mem_cons_self)
      have visited := unfolds url reached
      rw [emits, (owed.map visits).sum_eq, (before.map visits).sum_eq, List.map_append,
        List.sum_append, List.map_cons, List.sum_cons, visited]
      change _ + 1 + _ = _
      omega

/-- Once a way that turns in a circle has been taken there is always something owed. -/
theorem Builds.owes_cycle (builds : Builds web HTML pageURL log build) {turning : Url}
    (reached : Reaches web HTML pageURL turning)
    (cycle : Relation.TransGen (Lists (importedURLs web)) turning turning) :
    ∃ url ∈ build.owed web, HasCycleAhead (importedURLs web) url := by
  apply builds.invariant fun _ build => ∃ url ∈ build.owed web,
    HasCycleAhead (importedURLs web) url
  · intro strings order found perm
    obtain ⟨strings', found', string, inside, other, path⟩ := reached
    refine ⟨web.resolve pageURL string, ?_, turning, path, cycle⟩
    grind [owed, buildWebUIPageForHTML, ahead]
  · rintro log build after input emitted builds ⟨url, mem, ahead⟩ accepted stepped
    cases moves_of_step accepted stepped <;> grind [moves_of_step, ahead.child]

/-! ## Runs that end -/

/-- The builder ends once for a page, whatever the order in which sets are enumerated and fetches
complete. -/
structure EndsOnce (web : WebUIResources Url) (HTML : Text) (pageURL : Url) : Prop where
  starts : (URLStringsFromHTML HTML).isSome = true
  bounded : ∃ most, ∀ log build, Builds web HTML pageURL log build → log.countP isFetched ≤ most
  returns : ∀ log build input, Builds web HTML pageURL log build → build.Accepts web input →
    (build.step web input).isSome = true
  once : ∀ log build page, Builds web HTML pageURL log build → .finished page ∈ log →
    ∃ earlier, log = earlier ++ [.finished page] ∧ (∀ other, .finished other ∉ earlier) ∧
      ∀ url, earlier.count (.fetched url) = earlier.count (.loaded url)
  finishes : ∀ log build, Builds web HTML pageURL log build →
    (∀ input, ¬ build.Accepts web input) → ∃ page, .finished page ∈ log

/-- No style sheet that can be reached from the page imports itself, be it through others. -/
def NoCycle (web : WebUIResources Url) (HTML : Text) (pageURL : Url) : Prop :=
  ∀ url, Reaches web HTML pageURL url → ¬ Relation.TransGen (Lists (importedURLs web)) url url

/-- No tag of the page has an empty URL string, and all steps pass. -/
structure AlwaysPasses (web : WebUIResources Url) (HTML : Text) (pageURL : Url) : Prop where
  scripts : [] ∉ groupsFrom kJSTagPrefix kJSTagSuffix 0 HTML
  sheets : [] ∉ groupsFrom kCSSTagPrefix kCSSTagSuffix 0 HTML
  steps : ∀ log build input, Builds web HTML pageURL log build → build.Accepts web input →
    build.Passes web input

theorem URLStringsFromHTML_isSome : (URLStringsFromHTML HTML).isSome = true ↔
    [] ∉ groupsFrom kJSTagPrefix kJSTagSuffix 0 HTML ∧
      [] ∉ groupsFrom kCSSTagPrefix kCSSTagSuffix 0 HTML := by
  rw [← URLStringsFromResource_isSome, ← URLStringsFromResource_isSome]
  unfold URLStringsFromHTML
  cases URLStringsFromResource HTML kJSTagPrefix kJSTagSuffix <;> simp

theorem Builds.bounded (unfolds : ∀ url, Reaches web HTML pageURL url →
      visits url = 1 + ((importedURLs web url).map visits).sum) :
    ∃ most, ∀ log build, Builds web HTML pageURL log build → log.countP isFetched ≤ most := by
  cases found : URLStringsFromHTML HTML with
  | none =>
    refine ⟨0, fun log build builds => ?_⟩
    obtain ⟨_, _, _, some, -⟩ := builds
    grind
  | some strings =>
    refine ⟨((strings.filter (· ≠ kWebUIJSURL)).map fun string =>
      visits (web.resolve pageURL string)).sum, fun log build builds => ?_⟩
    obtain ⟨same, some, sum⟩ := builds.loaded_add_visits unfolds
    cases found.symm.trans some
    have positive : ((build.owed web).map visits).length ≤ ((build.owed web).map visits).sum := by
      apply List.length_le_sum_of_one_le
      intro count mem
      obtain ⟨url, owed, rfl⟩ := List.mem_map.mp mem
      simp [unfolds url (builds.reaches url owed)]
    have flying : build.inFlight.length ≤ ((build.owed web).map visits).length := by
      simp [owed]
    have fetches := builds.counted.fetches
    omega

/-- If the fetches are bounded and every step returns, every run comes to its end: a turn of a
loop without a fetch leaves less for the loops, and a completion does not fetch. -/
theorem Builds.exists_end {most : Nat}
    (bounded : ∀ log build, Builds web HTML pageURL log build → log.countP isFetched ≤ most)
    (returns : ∀ log build input, Builds web HTML pageURL log build → build.Accepts web input →
      (build.step web input).isSome = true)
    (builds : Builds web HTML pageURL log build) :
    ∃ last ended, Builds web HTML pageURL last ended ∧ ∀ input, ¬ ended.Accepts web input := by
  generalize size : 3 * (most - log.countP isFetched) + 2 * build.inFlight.length + build.loops =
    left
  induction left using Nat.strong_induction_on generalizing log build with
  | _ _ ih =>
    by_cases some : ∃ input, build.Accepts web input
    · obtain ⟨input, accepted⟩ := some
      obtain ⟨⟨after, emitted⟩, stepped⟩ :=
        Option.isSome_iff_exists.mp (returns log build input builds accepted)
      have following := builds.next accepted stepped
      have within := bounded _ _ following
      refine ih _ ?_ following rfl
      rw [List.countP_append] at within ⊢
      cases moves_of_step accepted stepped with
      | fetches _ emits inFlight _ _ _ _ =>
        have one : emitted.countP isFetched = 1 := by rw [emits]; rfl
        rw [inFlight, List.length_cons]
        omega
      | loads url rest emits mem inFlight pending more before owed
      | counts _ _ _ _ _ =>
        grind
    · grind

omit [LinearOrder Url] in
/-- Where nothing goes on nothing is owed any more. -/
theorem owed_eq_nil (ended : ∀ input, ¬ build.Accepts web input) :
    build.inFlight = [] ∧ build.loops = 0 ∧ build.owed web = [] := by
  obtain ⟨noHandlers, noStrings⟩ := not_or.mp (ended .proceed)
  have noHandlers := not_not.mp noHandlers
  have noStrings := not_not.mp noStrings
  have landed : build.inFlight = [] := by
    apply List.eq_nil_iff_forall_not_mem.mpr
    intro url mem
    apply ended (.complete url ((importStrings web url).getD []))
    refine ⟨mem, fun strings imports => ?_⟩
    rw [imports]
    exact .refl _
  simp [loops, noHandlers, noStrings, owed, ahead, landed]

theorem EndsOnce.noCycle (ends : EndsOnce web HTML pageURL) : NoCycle web HTML pageURL := by
  intro turning reached cycle
  obtain ⟨most, bounded⟩ := ends.bounded
  obtain ⟨strings, found⟩ := Option.isSome_iff_exists.mp ends.starts
  have start : Builds web HTML pageURL _ _ :=
    ⟨strings, strings, [], found, .refl _, .start, rfl⟩
  obtain ⟨last, ended, builds, complete⟩ := start.exists_end bounded ends.returns
  obtain ⟨url, mem, -⟩ := builds.owes_cycle reached cycle
  grind [(owed_eq_nil complete).2.2]

theorem EndsOnce.alwaysPasses (ends : EndsOnce web HTML pageURL) :
    AlwaysPasses web HTML pageURL := by
  obtain ⟨scripts, sheets⟩ := URLStringsFromHTML_isSome.mp ends.starts
  exact ⟨scripts, sheets, fun log build input builds accepted =>
    step_isSome_iff.mp (ends.returns log build input builds accepted)⟩

/-- The fetches for a page whose resources are finitely many come to an end, and the page is
handed over once after the last of them, exactly if no style sheet of it imports itself and all
steps pass. -/
theorem endsOnce_iff (web : WebUIResources Url) (HTML : Text) (pageURL : Url)
    (finite : {url | Reaches web HTML pageURL url}.Finite) :
    EndsOnce web HTML pageURL ↔ NoCycle web HTML pageURL ∧ AlwaysPasses web HTML pageURL := by
  constructor
  · intro ends
    exact ⟨ends.noCycle, ends.alwaysPasses⟩
  rintro ⟨noCycle, scripts, sheets, passes⟩
  obtain ⟨visits, unfolds⟩ := exists_visits finite
    (fun parent reached child listed => by
      grind [Reaches]) noCycle
  refine ⟨URLStringsFromHTML_isSome.mpr ⟨scripts, sheets⟩, Builds.bounded unfolds, ?_, ?_, ?_⟩
  · intro log build input builds accepted
    exact step_isSome_iff.mpr (passes log build input builds accepted)
  · intro log build page builds mem
    have counted := builds.counted
    have complete : build.pendingSubresourceCount = 0 := by
      by_contra more
      exact counted.unfinished more page mem
    obtain ⟨earlier, last, rfl, before⟩ := counted.finished complete
    have same : page = last := by
      grind
    have landed : build.inFlight = [] := by
      apply List.length_eq_zero_iff.mp
      have := counted.pending
      omega
    refine ⟨earlier, by rw [same], before, fun url => ?_⟩
    simpa [landed] using counted.waiting url
  · intro log build builds ended
    obtain ⟨landed, noLoops, -⟩ := owed_eq_nil ended
    have pending := builds.counted.pending
    rw [landed, noLoops] at pending
    obtain ⟨_, _, rfl, -⟩ := builds.counted.finished pending
    simp

/-- Where every tag has the URL that it is resolved to, nothing is replaced out of range. -/
theorem alwaysPasses_of_resolved (found : (URLStringsFromHTML HTML).isSome = true)
    (resolved : ∀ strings ∈ URLStringsFromHTML HTML, ∀ string ∈ strings,
      web.spec (web.resolve pageURL string) = string)
    (imports : ∀ url, [] ∉ groupsFrom (textOf "@import url(") (textOf ");") 0 (web.resource url)) :
    AlwaysPasses web HTML pageURL := by
  obtain ⟨scripts, sheets⟩ := URLStringsFromHTML_isSome.mp found
  refine ⟨scripts, sheets, fun log build input builds _ => ?_⟩
  cases input with
  | complete url _ => exact fun _ => imports url
  | proceed =>
    intro _ string first _ differs
    obtain ⟨-, page, strings, found, inside⟩ := builds.frame
    grind

/-! ## Three style sheets -/

/-- URLs of a page, three style sheets and the messaging script, where the last stands for no
URL. -/
def threeStylesheets (CSS : Fin 6 → Text) : WebUIResources (Fin 6) where
  resolve _ string :=
    if string = textOf "chrome://page/a.css" then 1
    else if string = textOf "chrome://page/b.css" then 2
    else if string = textOf "chrome://page/c.css" then 3
    else 5
  spec
    | 0 => textOf "chrome://page/"
    | 1 => textOf "chrome://page/a.css"
    | 2 => textOf "chrome://page/b.css"
    | 3 => textOf "chrome://page/c.css"
    | 4 => kWebUIJSURL
    | 5 => []
  extension
    | 1 | 2 | 3 => textOf ".css"
    | 4 => textOf ".js"
    | _ => []
  webUIJSURL := 4
  webUIJavaScript := []
  resource := CSS

def pageWithStylesheet : Text := textOf "<link rel=\"stylesheet\" href=\"chrome://page/a.css\">"

def pageWithTwoStylesheets : Text :=
  pageWithStylesheet ++ textOf "<link rel=\"stylesheet\" href=\"chrome://page/b.css\">"

def sharedImport (url : Fin 6) : Text :=
  if url = 1 ∨ url = 2 then textOf "@import url(chrome://page/c.css);" else []

theorem endsOnce_iff_sharedImport :
    EndsOnce (threeStylesheets sharedImport) pageWithTwoStylesheets 0 := by
  have imports : ∀ url, importedURLs (threeStylesheets sharedImport) url =
      if url = 1 ∨ url = 2 then [3] else [] := by decide +kernel
  have third : ∀ parent child, Lists (importedURLs (threeStylesheets sharedImport)) parent child →
      parent ≠ 3 ∧ child = 3 := by
    intro parent child listed
    unfold Lib.Lists at listed
    rw [imports] at listed
    grind
  refine (endsOnce_iff _ _ _ (Set.toFinite _)).mpr ⟨?_, alwaysPasses_of_resolved ?_ ?_ ?_⟩
  · intro url _ cycle
    obtain ⟨_, first, -⟩ := Relation.TransGen.head'_iff.mp cycle
    obtain ⟨_, -, last⟩ := Relation.TransGen.tail'_iff.mp cycle
    exact (third _ _ first).1 (third _ _ last).2
  · decide +kernel
  · decide +kernel
  · decide +kernel

/-- It is fetched again and again, and the page is never handed over. -/
theorem not_endsOnce_importsItself :
    ¬ EndsOnce (threeStylesheets fun _ => textOf "@import url(chrome://page/a.css);")
      pageWithStylesheet 0 := by
  intro ends
  have found : URLStringsFromHTML pageWithStylesheet = some [textOf "chrome://page/a.css"] := by
    decide
  have imports : importedURLs
      (threeStylesheets fun _ => textOf "@import url(chrome://page/a.css);") 1 = [1] := by decide
  apply ends.noCycle 1 ⟨_, found, _, .head _, by decide, .refl⟩
  apply Relation.TransGen.single
  rw [Lib.Lists, imports]
  exact .head _

end CRWWebUIPageBuilder

end ChromiumIos
