import ChromiumIos.Lib.Checked

/-!
# The answers of the update server

An answer acknowledges an event, or it acknowledges a ping and says whether there is
an update, of which it then gives the address and the version.  The parser hears of
the elements of the answer in order and keeps one flag for each kind of element.  As
long as it has found no error, the flags stand for a position in one of the answers
that are documented.
-/

namespace ChromiumIos

open Lib

structure StartElement where
  name : String
  attributes : List (String × String)
deriving DecidableEq, Repr

variable (element : StartElement)

def StartElement.attribute (key : String) : Option String :=
  element.attributes.lookup key

structure UpgradeRecommendedDetails (Url : Type) where
  upgradeUrl : Url
  nextVersion : String
deriving DecidableEq, Repr

/-- URLs as they are made of text. -/
structure UrlParser (Url : Type) where
  parse : String → Url
  isValid : Url → Bool

structure ResponseParser (Url : Type) where
  hasError : Bool := false
  responseIsParsed : Bool := false
  appIsParsed : Bool := false
  updateCheckIsParsed : Bool := false
  urlIsParsed : Bool := false
  manifestIsParsed : Bool := false
  pingIsParsed : Bool := false
  eventIsParsed : Bool := false
  updateInformation : Option (UpgradeRecommendedDetails Url) := none
deriving DecidableEq, Repr

namespace ResponseParser

variable {Url : Type}

def isCorrect (parser : ResponseParser Url) : Bool :=
  !parser.hasError && (parser.pingIsParsed || parser.eventIsParsed)

def upgradeRecommendedDetails (parser : ResponseParser Url) :
    Option (UpgradeRecommendedDetails Url) :=
  parser.updateInformation

def ignoredTagNames : List String :=
  ["action", "actions", "daystart", "package", "packages", "urls"]

def withoutSlash (url : String) : String :=
  if url.toList.getLast? = some '/' then String.ofList url.toList.dropLast else url

/-- A callback of the XML parser; it stops where a detail of an update is written while there is
no record of an update. -/
def didStartElement (urls : UrlParser Url) (appId : String) (parser : ResponseParser Url)
    (element : StartElement) : Checked (ResponseParser Url) :=
  let failed := { parser with hasError := true }
  if parser.hasError then some parser
  else if element.name ∈ ignoredTagNames then some parser
  else if !parser.responseIsParsed then
    if element.name = "response" ∧ element.attribute "protocol" = some "3.0" ∧
        element.attribute "server" = some "prod" then
      some { parser with responseIsParsed := true }
    else some failed
  else if !parser.appIsParsed then
    if element.name = "app" ∧ element.attribute "status" = some "ok" ∧
        element.attribute "appid" = some appId then
      some { parser with appIsParsed := true }
    else some failed
  else if !parser.eventIsParsed && !parser.updateCheckIsParsed then
    if element.name = "updatecheck" then
      let checked := { parser with updateCheckIsParsed := true }
      if element.attribute "status" = some "noupdate" then
        some { checked with urlIsParsed := true, manifestIsParsed := true }
      else if element.attribute "status" = some "ok" then
        some { checked with updateInformation := some ⟨urls.parse "", ""⟩ }
      else some { checked with hasError := true }
    else if element.name = "event" then
      if element.attribute "status" = some "ok" then
        some { parser with eventIsParsed := true }
      else some failed
    else some failed
  else if !parser.urlIsParsed then
    match element.attribute "codebase" with
    | some codebase =>
      if element.name = "url" ∧ codebase ≠ "" then
        match parser.updateInformation with
        | none => none
        | some details =>
          let url := urls.parse (withoutSlash codebase)
          some { parser with
            urlIsParsed := true
            updateInformation := some { details with upgradeUrl := url }
            hasError := !urls.isValid url }
      else some failed
    | none => some failed
  else if !parser.manifestIsParsed then
    match element.attribute "version" with
    | some version =>
      if element.name = "manifest" then
        match parser.updateInformation with
        | none => none
        | some details =>
          some { parser with
            manifestIsParsed := true
            updateInformation := some { details with nextVersion := version } }
      else some failed
    | none => some failed
  else if !parser.pingIsParsed then
    if element.name = "ping" ∧ element.attribute "status" = some "ok" then
      some { parser with pingIsParsed := true }
    else some failed
  else some failed

def parse (urls : UrlParser Url) (appId : String) (elements : List StartElement) :
    Checked (ResponseParser Url) :=
  elements.foldlM (didStartElement urls appId) {}

end ResponseParser

/-! ## Documented answers -/

namespace StartElement

variable {Url : Type}

def IsIgnored : Prop := element.name ∈ ResponseParser.ignoredTagNames

instance : DecidablePred IsIgnored := fun _ => inferInstanceAs (Decidable (_ ∈ _))

def IsResponse : Prop :=
  element.name = "response" ∧ element.attribute "protocol" = some "3.0" ∧
    element.attribute "server" = some "prod"

def IsApp (appId : String) (element : StartElement) : Prop :=
  element.name = "app" ∧ element.attribute "status" = some "ok" ∧
    element.attribute "appid" = some appId

def IsUpdateCheck (status : String) (element : StartElement) : Prop :=
  element.name = "updatecheck" ∧ element.attribute "status" = some status

def IsEvent : Prop :=
  element.name = "event" ∧ element.attribute "status" = some "ok"

def IsPing : Prop :=
  element.name = "ping" ∧ element.attribute "status" = some "ok"

/-- An element that gives an address, whether it can be parsed or not. -/
def IsUrl (codebase : String) (element : StartElement) : Prop :=
  element.name = "url" ∧ element.attribute "codebase" = some codebase ∧ codebase ≠ ""

def IsManifest (version : String) (element : StartElement) : Prop :=
  element.name = "manifest" ∧ element.attribute "version" = some version

end StartElement

/-- The answers that are documented, with the details of the update they give. -/
inductive DocumentedResponse {Url : Type} (urls : UrlParser Url) (appId : String) :
    List StartElement → Option (UpgradeRecommendedDetails Url) → Prop where
  | acknowledged {response app event : StartElement} (first : response.IsResponse)
      (second : app.IsApp appId) (third : event.IsEvent) :
      DocumentedResponse urls appId [response, app, event] none
  | noUpdate {response app check ping : StartElement} (first : response.IsResponse)
      (second : app.IsApp appId) (third : check.IsUpdateCheck "noupdate") (last : ping.IsPing) :
      DocumentedResponse urls appId [response, app, check, ping] none
  | update {response app check url manifest ping : StartElement} {codebase version : String}
      (first : response.IsResponse) (second : app.IsApp appId)
      (third : check.IsUpdateCheck "ok") (address : url.IsUrl codebase)
      (valid : urls.isValid (urls.parse (ResponseParser.withoutSlash codebase)) = true)
      (named : manifest.IsManifest version) (last : ping.IsPing) :
      DocumentedResponse urls appId [response, app, check, url, manifest, ping]
        (some ⟨urls.parse (ResponseParser.withoutSlash codebase), version⟩)

namespace ResponseParser

variable {Url : Type}

def relevant (elements : List StartElement) : List StartElement :=
  elements.filter fun element => ¬ element.IsIgnored

/-- The parser comes to its end, is content with the documented answers, and gives details with a
valid address and a version. -/
def ParsesDocumented (urls : UrlParser Url) (appId : String) (elements : List StartElement) :
    Prop :=
  ∃ parser, parse urls appId elements = some parser ∧
    (parser.isCorrect = true ↔
      ∃ details, DocumentedResponse urls appId (relevant elements) details) ∧
    ∀ details, parser.isCorrect = true → parser.upgradeRecommendedDetails = some details →
      urls.isValid details.upgradeUrl = true ∧
        ∃ manifest ∈ elements, manifest.IsManifest details.nextVersion

/-- An address is given where an event was acknowledged. -/
def GivesUrlAfterEvent (appId : String) (elements : List StartElement) : Prop :=
  ∃ response app event url codebase rest,
    relevant elements = response :: app :: event :: url :: rest ∧ response.IsResponse ∧
      app.IsApp appId ∧ event.IsEvent ∧ url.IsUrl codebase

/-! ## Positions -/

/-- The places in the documented answers. -/
inductive Position (Url : Type) where
  | start
  | inResponse
  | inApp
  | acknowledged
  | updateOffered
  | urlGiven (url : Url)
  | awaitingPing (details : Option (UpgradeRecommendedDetails Url))
  | pinged (details : Option (UpgradeRecommendedDetails Url))

def flags (urls : UrlParser Url) : Position Url → ResponseParser Url
  | .start => {}
  | .inResponse => { responseIsParsed := true }
  | .inApp => { responseIsParsed := true, appIsParsed := true }
  | .acknowledged => { responseIsParsed := true, appIsParsed := true, eventIsParsed := true }
  | .updateOffered =>
    { responseIsParsed := true
      appIsParsed := true
      updateCheckIsParsed := true
      updateInformation := some ⟨urls.parse "", ""⟩ }
  | .urlGiven url =>
    { responseIsParsed := true
      appIsParsed := true
      updateCheckIsParsed := true
      urlIsParsed := true
      updateInformation := some ⟨url, ""⟩ }
  | .awaitingPing details =>
    { responseIsParsed := true
      appIsParsed := true
      updateCheckIsParsed := true
      urlIsParsed := true
      manifestIsParsed := true
      updateInformation := details }
  | .pinged details =>
    { responseIsParsed := true
      appIsParsed := true
      updateCheckIsParsed := true
      urlIsParsed := true
      manifestIsParsed := true
      pingIsParsed := true
      updateInformation := details }

/-- The elements that lead from one position to the next. -/
inductive Moves (urls : UrlParser Url) (appId : String) :
    Position Url → StartElement → Position Url → Prop where
  | response {element : StartElement} (is : element.IsResponse) :
      Moves urls appId .start element .inResponse
  | app {element : StartElement} (is : element.IsApp appId) :
      Moves urls appId .inResponse element .inApp
  | event {element : StartElement} (is : element.IsEvent) :
      Moves urls appId .inApp element .acknowledged
  | noUpdate {element : StartElement} (is : element.IsUpdateCheck "noupdate") :
      Moves urls appId .inApp element (.awaitingPing none)
  | update {element : StartElement} (is : element.IsUpdateCheck "ok") :
      Moves urls appId .inApp element .updateOffered
  | url {element : StartElement} {codebase : String} (is : element.IsUrl codebase)
      (valid : urls.isValid (urls.parse (withoutSlash codebase)) = true) :
      Moves urls appId .updateOffered element (.urlGiven (urls.parse (withoutSlash codebase)))
  | manifest {element : StartElement} {url : Url} {version : String}
      (is : element.IsManifest version) :
      Moves urls appId (.urlGiven url) element (.awaitingPing (some ⟨url, version⟩))
  | ping {element : StartElement} {details : Option (UpgradeRecommendedDetails Url)}
      (is : element.IsPing) :
      Moves urls appId (.awaitingPing details) element (.pinged details)

inductive Path (urls : UrlParser Url) (appId : String) :
    Position Url → List StartElement → Position Url → Prop where
  | nil (position : Position Url) : Path urls appId position [] position
  | cons {position middle last : Position Url} {element : StartElement}
      {rest : List StartElement} (first : Moves urls appId position element middle)
      (following : Path urls appId middle rest last) :
      Path urls appId position (element :: rest) last

variable {urls : UrlParser Url} {appId : String} {position last : Position Url}
variable {element : StartElement} {elements : List StartElement}
variable {details : Option (UpgradeRecommendedDetails Url)}

def Rejects (urls : UrlParser Url) (appId : String) (parser : ResponseParser Url)
    (element : StartElement) : Prop :=
  ∃ error, error.hasError = true ∧ didStartElement urls appId parser element = some error

/-- Where an address or a version is expected, the element is asked for it. -/
theorem didStartElement_acknowledged (heard : ¬ element.IsIgnored) :
    didStartElement urls appId (flags urls .acknowledged) element =
      match element.attribute "codebase" with
      | some codebase =>
        if element.name = "url" ∧ codebase ≠ "" then none
        else some { flags urls .acknowledged with hasError := true }
      | none => some { flags urls .acknowledged with hasError := true } :=
  if_neg heard

theorem didStartElement_updateOffered (heard : ¬ element.IsIgnored) :
    didStartElement urls appId (flags urls .updateOffered) element =
      match element.attribute "codebase" with
      | some codebase =>
        if element.name = "url" ∧ codebase ≠ "" then
          some { flags urls (.urlGiven (urls.parse (withoutSlash codebase))) with
            hasError := !urls.isValid (urls.parse (withoutSlash codebase)) }
        else some { flags urls .updateOffered with hasError := true }
      | none => some { flags urls .updateOffered with hasError := true } :=
  if_neg heard

theorem didStartElement_urlGiven (heard : ¬ element.IsIgnored) (url : Url) :
    didStartElement urls appId (flags urls (.urlGiven url)) element =
      match element.attribute "version" with
      | some version =>
        if element.name = "manifest" then
          some (flags urls (.awaitingPing (some ⟨url, version⟩)))
        else some { flags urls (.urlGiven url) with hasError := true }
      | none => some { flags urls (.urlGiven url) with hasError := true } :=
  if_neg heard

theorem Moves.didStartElement (moves : Moves urls appId position element last)
    (heard : ¬ element.IsIgnored) :
    didStartElement urls appId (flags urls position) element = some (flags urls last) := by
  cases moves with
  | response is | app is | ping is => exact (if_neg heard).trans (if_pos is)
  | event is =>
    have notCheck : element.name ≠ "updatecheck" := by
      rw [is.1]
      decide
    exact (if_neg heard).trans
      ((if_neg notCheck).trans ((if_pos is.1).trans (if_pos is.2)))
  | noUpdate is => exact (if_neg heard).trans ((if_pos is.1).trans (if_pos is.2))
  | update is =>
    have notNone : element.attribute "status" ≠ some "noupdate" := by
      rw [is.2]
      decide
    exact (if_neg heard).trans
      ((if_pos is.1).trans ((if_neg notNone).trans (if_pos is.2)))
  | url is valid =>
    rw [didStartElement_updateOffered heard, is.2.1]
    refine (if_pos ⟨is.1, is.2.2⟩).trans ?_
    rw [valid]
    rfl
  | manifest is =>
    rw [didStartElement_urlGiven heard, is.2]
    exact if_pos is.1

/-- An element that leads nowhere is an error, but for an address behind an event, for which
there is no record that it could be written to. -/
theorem didStartElement_stuck (heard : ¬ element.IsIgnored)
    (stuck : ∀ last, ¬ Moves urls appId position element last) :
    Rejects urls appId (flags urls position) element ∨
      position = .acknowledged ∧ (∃ codebase, element.IsUrl codebase) ∧
        didStartElement urls appId (flags urls position) element = none := by
  cases position with
  | start => exact .inl ⟨_, rfl, (if_neg heard).trans (if_neg fun is => stuck _ (.response is))⟩
  | inResponse => exact .inl ⟨_, rfl, (if_neg heard).trans (if_neg fun is => stuck _ (.app is))⟩
  | awaitingPing _ =>
    exact .inl ⟨_, rfl, (if_neg heard).trans (if_neg fun is => stuck _ (.ping is))⟩
  | pinged _ => exact .inl ⟨_, rfl, if_neg heard⟩
  | inApp =>
    refine .inl ?_
    by_cases check : element.name = "updatecheck"
    · exact ⟨_, rfl, (if_neg heard).trans ((if_pos check).trans
        ((if_neg fun status => stuck _ (.noUpdate ⟨check, status⟩)).trans
          (if_neg fun status => stuck _ (.update ⟨check, status⟩))))⟩
    by_cases event : element.name = "event"
    · exact ⟨_, rfl, (if_neg heard).trans ((if_neg check).trans ((if_pos event).trans
        (if_neg fun status => stuck _ (.event ⟨event, status⟩))))⟩
    · exact ⟨_, rfl, (if_neg heard).trans ((if_neg check).trans (if_neg event))⟩
  | acknowledged =>
    unfold Rejects
    rw [didStartElement_acknowledged heard]
    cases given : element.attribute "codebase" with
    | none => simp
    | some codebase =>
      by_cases url : element.name = "url" ∧ codebase ≠ ""
      · simp [StartElement.IsUrl, url, given]
      · exact .inl ⟨_, rfl, if_neg url⟩
  | updateOffered =>
    refine .inl ?_
    unfold Rejects
    rw [didStartElement_updateOffered heard]
    cases given : element.attribute "codebase" with
    | none => simp
    | some codebase =>
      by_cases url : element.name = "url" ∧ codebase ≠ ""
      · have invalid : urls.isValid (urls.parse (withoutSlash codebase)) = false := by
          by_contra valid
          exact stuck _ (.url ⟨url.1, given, url.2⟩ (Bool.not_eq_false _ ▸ valid))
        simp [invalid, url]
      · exact ⟨_, rfl, if_neg url⟩
  | urlGiven _ =>
    refine .inl ?_
    unfold Rejects
    rw [didStartElement_urlGiven heard]
    cases given : element.attribute "version" with
    | none => simp
    | some _ =>
      exact ⟨_, rfl, if_neg fun named => stuck _ (.manifest ⟨named, given⟩)⟩

theorem didStartElement_of_hasError {parser : ResponseParser Url} (error : parser.hasError = true) :
    didStartElement urls appId parser element = some parser :=
  if_pos error

theorem didStartElement_of_ignored {parser : ResponseParser Url} (ignored : element.IsIgnored) :
    didStartElement urls appId parser element = some parser := by
  unfold didStartElement
  dsimp only
  split
  · rfl
  · exact if_pos ignored

/-! ## Whole answers -/

theorem foldlM_of_hasError {parser : ResponseParser Url} (error : parser.hasError = true) :
    elements.foldlM (didStartElement urls appId) parser = some parser := by
  induction elements with
  | nil => rfl
  | cons _ _ ih =>
    simp [didStartElement_of_hasError error, ih]

/-- Ignored elements leave the parser as it is. -/
theorem foldlM_relevant (elements : List StartElement) (parser : ResponseParser Url) :
    (relevant elements).foldlM (didStartElement urls appId) parser =
      elements.foldlM (didStartElement urls appId) parser := by
  induction elements generalizing parser with
  | nil => rfl
  | cons element rest ih =>
    by_cases ignored : element.IsIgnored
    · have skipped : relevant (element :: rest) = relevant rest :=
        List.filter_cons_of_neg (by simpa using ignored)
      simp [skipped, ih, didStartElement_of_ignored ignored]
    · have kept : relevant (element :: rest) = element :: relevant rest :=
        List.filter_cons_of_pos (by simpa using ignored)
      simp [kept, ih]

theorem relevant_heard (elements : List StartElement) :
    ∀ element ∈ relevant elements, ¬ element.IsIgnored := fun _ mem =>
  of_decide_eq_true (List.mem_filter.mp mem).2

theorem Path.foldlM (path : Path urls appId position elements last)
    (heard : ∀ element ∈ elements, ¬ element.IsIgnored) :
    elements.foldlM (ResponseParser.didStartElement urls appId) (flags urls position) =
      some (flags urls last) := by
  induction path with
  | nil _ => rfl
  | cons first _ _ =>
    grind [first.didStartElement]

/-- An address is given where an event was acknowledged, on the way from a position. -/
def Stops (urls : UrlParser Url) (appId : String) (position : Position Url)
    (elements : List StartElement) : Prop :=
  ∃ before url rest codebase, elements = before ++ url :: rest ∧
    Path urls appId position before .acknowledged ∧ url.IsUrl codebase

/-- The parser stops, finds an error or comes to a position. -/
theorem foldlM_cases (urls : UrlParser Url) (appId : String) (position : Position Url)
    (heard : ∀ element ∈ elements, ¬ element.IsIgnored) :
    (elements.foldlM (ResponseParser.didStartElement urls appId) (flags urls position) = none ∧
        Stops urls appId position elements) ∨
      (∃ after, after.hasError = true ∧
        elements.foldlM (ResponseParser.didStartElement urls appId) (flags urls position) =
          some after) ∨
      ∃ last, Path urls appId position elements last := by
  induction elements generalizing position with
  | nil => exact .inr (.inr ⟨position, .nil position⟩)
  | cons element rest ih =>
    obtain ⟨headHeard, tailHeard⟩ := List.forall_mem_cons.mp heard
    rw [List.foldlM_cons]
    by_cases stuck : ∀ last, ¬ Moves urls appId position element last
    · rcases didStartElement_stuck headHeard stuck with
        ⟨after, error, stepped⟩ | ⟨rfl, ⟨codebase, url⟩, stepped⟩
      · grind [foldlM_of_hasError]
      · rw [stepped]
        exact .inl ⟨rfl, [], element, rest, codebase, rfl, .nil _, url⟩
    · obtain ⟨middle, moves⟩ := not_forall_not.mp stuck
      rw [moves.didStartElement headHeard]
      rcases ih middle tailHeard with
        ⟨none, before, url, others, codebase, rfl, path, isUrl⟩ | error | ⟨last, path⟩
      · exact .inl ⟨none, element :: before, url, others, codebase, rfl, .cons moves path, isUrl⟩
      · exact .inr (.inl error)
      · exact .inr (.inr ⟨last, .cons moves path⟩)

/-- The answers with which the parser is content are the paths to an acknowledged event or to a
ping. -/
theorem documented_iff :
    DocumentedResponse urls appId elements details ↔
      ∃ last, Path urls appId .start elements last ∧ (flags urls last).isCorrect = true ∧
        (flags urls last).upgradeRecommendedDetails = details := by
  constructor
  · intro documented
    cases documented with
    | acknowledged first second third =>
      exact ⟨_, .cons (.response first) (.cons (.app second) (.cons (.event third) (.nil _))),
        rfl, rfl⟩
    | noUpdate first second third last =>
      exact ⟨_, .cons (.response first) (.cons (.app second) (.cons (.noUpdate third)
        (.cons (.ping last) (.nil _)))), rfl, rfl⟩
    | update first second third address valid named last =>
      exact ⟨_, .cons (.response first) (.cons (.app second) (.cons (.update third)
        (.cons (.url address valid) (.cons (.manifest named) (.cons (.ping last)
          (.nil _)))))), rfl, rfl⟩
  · rintro ⟨last, path, correct, rfl⟩
    -- the path is taken apart at its first elements, where the next position is known
    rcases path with _ | ⟨⟨⟩, _ | ⟨⟨⟩, _ | ⟨third, path⟩⟩⟩
    · cases correct
    · cases correct
    · cases correct
    cases third with
    | event isEvent =>
      obtain _ | ⟨⟨⟩, -⟩ := path
      exact .acknowledged ‹_› ‹_› isEvent
    | noUpdate isCheck =>
      obtain _ | ⟨⟨⟩, _ | ⟨⟨⟩, -⟩⟩ := path
      · cases correct
      · exact .noUpdate ‹_› ‹_› isCheck ‹_›
    | update isCheck =>
      obtain _ | ⟨⟨⟩, _ | ⟨⟨⟩, _ | ⟨⟨⟩, _ | ⟨⟨⟩, -⟩⟩⟩⟩ := path
      · cases correct
      · cases correct
      · cases correct
      · exact .update ‹_› ‹_› isCheck ‹_› ‹_› ‹_› ‹_›

/-- An event has been acknowledged after three elements. -/
theorem path_acknowledged_iff :
    Path urls appId .start elements .acknowledged ↔
      ∃ response app event, elements = [response, app, event] ∧ response.IsResponse ∧
        app.IsApp appId ∧ event.IsEvent := by
  constructor
  · intro path
    obtain _ | ⟨⟨⟩, _ | ⟨⟨⟩, _ | ⟨third, path⟩⟩⟩ := path
    cases third with
    | event _ =>
      obtain _ | ⟨⟨⟩, -⟩ := path
      grind
    | noUpdate _ => obtain _ | ⟨⟨_⟩, _ | ⟨⟨⟩, -⟩⟩ := path
    | update _ =>
      obtain _ | ⟨⟨_, _⟩, _ | ⟨⟨_⟩, _ | ⟨⟨_⟩, _ | ⟨⟨⟩, -⟩⟩⟩⟩ := path
  · rintro ⟨response, app, event, rfl, isResponse, isApp, isEvent⟩
    exact .cons (.response isResponse) (.cons (.app isApp) (.cons (.event isEvent) (.nil _)))

theorem stops_start_iff (urls : UrlParser Url) :
    Stops urls appId .start (relevant elements) ↔ GivesUrlAfterEvent appId elements := by
  unfold Stops GivesUrlAfterEvent
  simp only [path_acknowledged_iff]
  constructor
  · grind
  · rintro ⟨response, app, event, url, codebase, rest, same, isResponse, isApp, isEvent, isUrl⟩
    exact ⟨[response, app, event], url, rest, codebase, same,
      ⟨response, app, event, rfl, isResponse, isApp, isEvent⟩, isUrl⟩

/-- The details of a documented answer. -/
theorem details_of_documented {details : UpgradeRecommendedDetails Url}
    (documented : DocumentedResponse urls appId elements (some details)) :
    urls.isValid details.upgradeUrl = true ∧
      ∃ manifest ∈ elements, manifest.IsManifest details.nextVersion := by
  cases documented with
  | update _ _ _ _ valid isManifest _ =>
    simp [valid, isManifest]

/-- The parser is content, with the details of an update or without, exactly with the documented
answers. -/
theorem parse_correct_iff {parser : ResponseParser Url}
    (parsed : parse urls appId elements = some parser)
    (details : Option (UpgradeRecommendedDetails Url)) :
    parser.isCorrect = true ∧ parser.upgradeRecommendedDetails = details ↔
      DocumentedResponse urls appId (relevant elements) details := by
  have folded : (relevant elements).foldlM (ResponseParser.didStartElement urls appId)
      (flags urls .start) = some parser :=
    (foldlM_relevant elements _).trans parsed
  rw [documented_iff]
  constructor
  · rintro ⟨correct, same⟩
    rcases foldlM_cases urls appId .start (relevant_heard elements) with
      ⟨none, -⟩ | ⟨after, error, ended⟩ | ⟨last, path⟩
    · cases none.symm.trans folded
    · cases ended.symm.trans folded
      simp [isCorrect, error] at correct
    · grind [relevant_heard, path.foldlM]
  · rintro ⟨last, path, correct, same⟩
    grind [relevant_heard, path.foldlM]

theorem parse_isSome_iff (urls : UrlParser Url) :
    (∃ parser, parse urls appId elements = some parser) ↔
      ¬ GivesUrlAfterEvent appId elements := by
  have folded : (relevant elements).foldlM (ResponseParser.didStartElement urls appId)
      (flags urls .start) = parse urls appId elements :=
    foldlM_relevant elements _
  rw [← folded, ← stops_start_iff urls]
  constructor
  · rintro ⟨parser, ended⟩ ⟨before, url, rest, codebase, same, path, isUrl⟩
    have heard := relevant_heard elements
    rw [same] at heard ended
    rw [List.foldlM_append, path.foldlM fun element mem =>
      heard element (List.mem_append_left _ mem)] at ended
    have stopped : didStartElement urls appId (flags urls .acknowledged) url = none := by
      rw [didStartElement_acknowledged (heard url (by simp)), isUrl.2.1]
      exact if_pos ⟨isUrl.1, isUrl.2.2⟩
    simp [stopped] at ended
  · intro passes
    rcases foldlM_cases urls appId .start (relevant_heard elements) with
      ⟨-, stops⟩ | ⟨after, -, ended⟩ | ⟨last, path⟩
    · exact absurd stops passes
    · exact ⟨after, ended⟩
    · exact ⟨_, path.foldlM (relevant_heard elements)⟩

/-- An answer is parsed as it is documented unless it gives an address after an event that was
acknowledged. -/
theorem parsesDocumented_iff (urls : UrlParser Url) (appId : String)
    (elements : List StartElement) :
    ParsesDocumented urls appId elements ↔ ¬ GivesUrlAfterEvent appId elements := by
  rw [← parse_isSome_iff urls]
  constructor
  · rintro ⟨parser, parsed, -⟩
    exact ⟨parser, parsed⟩
  · rintro ⟨parser, parsed⟩
    refine ⟨parser, parsed, ⟨fun correct => ?_, fun ⟨details, documented⟩ => ?_⟩, ?_⟩
    · exact ⟨_, (parse_correct_iff parsed _).mp ⟨correct, rfl⟩⟩
    · exact ((parse_correct_iff parsed details).mpr documented).1
    · intro details correct given
      obtain ⟨valid, manifest, mem, named⟩ :=
        details_of_documented ((parse_correct_iff parsed _).mp ⟨correct, given⟩)
      exact ⟨valid, manifest, (List.mem_filter.mp mem).1, named⟩

def plainUrls : UrlParser String where
  parse := id
  isValid url := url ≠ ""

def urlAfterEvent : List StartElement :=
  [⟨"response", [("protocol", "3.0"), ("server", "prod")]⟩, ⟨"daystart", []⟩,
    ⟨"app", [("status", "ok"), ("appid", "app")]⟩, ⟨"event", [("status", "ok")]⟩,
    ⟨"url", [("codebase", "http://www.goo.fr/foo/")]⟩]

theorem not_parsesDocumented_urlAfterEvent :
    ¬ ParsesDocumented plainUrls "app" urlAfterEvent := by
  rintro ⟨parser, parsed, -⟩
  have stopped : (parse plainUrls "app" urlAfterEvent).isNone = true := by decide
  rw [parsed] at stopped
  cases stopped

end ResponseParser

end ChromiumIos
