import ChromiumIos.Lib.History
import ChromiumIos.Navigation.NavigationItem

/-!
# Restoring a session history into a web view

With the slim navigation manager a session is restored by loading a local page
whose URL fragment carries the history.  The native side chooses which items to
send and an offset; the page replaces its own entry by the first of them, pushes
the others, and goes by the offset.  JSON, escaping and their inverses belong to
libraries on both sides and are parameters, gathered in `SessionCodec`.
-/

namespace ChromiumIos

open Lib

def kMaxSessionSize : Nat := 75
def kRestoreSessionSessionHashPrefix : String := "session="
def kRestoreSessionTargetUrlHashPrefix : String := "targetUrl="

/-- The dictionary that is sent to the page. -/
structure SessionDictionary where
  offset : Int
  urls : List String
  titles : List String
  deriving DecidableEq, Repr

/-- The library functions that carry a dictionary from the native side to the page. -/
structure SessionCodec where
  jsonWrite : SessionDictionary → String
  escapeQueryParamValue : String → String
  decodeURIComponent : String → String
  encodeURIComponent : String → String
  jsonParse : String → Option SessionDictionary

/-- A dictionary arrives at the page as it was sent. -/
structure SessionCodec.Delivers (codec : SessionCodec) (session : SessionDictionary) : Prop where
  unescapes : codec.decodeURIComponent (codec.escapeQueryParamValue (codec.jsonWrite session)) =
    codec.jsonWrite session
  nonempty : codec.jsonWrite session ≠ ""
  parses : codec.jsonParse (codec.jsonWrite session) = some session

/-! ## The native side -/

/-- The positions of the first item sent and of the one after the last, out of `size`. -/
def getSafeItemIterators (lastCommittedItemIndex size : Nat) : Nat × Nat :=
  if size ≤ kMaxSessionSize then (0, size)
  else if lastCommittedItemIndex < kMaxSessionSize / 2 then (0, kMaxSessionSize)
  else if size - lastCommittedItemIndex < kMaxSessionSize / 2 then (size - kMaxSessionSize, size)
  else (lastCommittedItemIndex - kMaxSessionSize / 2,
    lastCommittedItemIndex + kMaxSessionSize / 2 + 1)

structure RestoreSessionUrl where
  baseUrl : String
  ref : String
  deriving DecidableEq, Repr

def RestoreSessionUrl.hash (url : RestoreSessionUrl) : String := "#" ++ url.ref

variable (session : SessionDictionary)

section

variable (env : NavigationEnvironment) (codec : SessionCodec) (baseUrl : String)

def restoredUrl (item : NavigationItem) : String :=
  if env.isAppSpecificURL item.url then
    (env.createPlaceholderUrlForUrl item.url).spec
  else item.url.spec

/-- The loop over the items sent; reading past the end of the items is undefined. -/
def restoredSession (lastCommittedItemIndex : Int) (items : List NavigationItem) :
    Checked SessionDictionary := do
  let (first, last) := getSafeItemIterators lastCommittedItemIndex.toNat items.length
  dcheck (last ≤ items.length)
  let sent := (items.take last).drop first
  return {
    offset := lastCommittedItemIndex + 1 - (last - first : Nat)
    urls := sent.map (restoredUrl env)
    titles := sent.map NavigationItem.title }

def createRestoreSessionUrl (lastCommittedItemIndex : Int) (items : List NavigationItem) :
    Checked RestoreSessionUrl := do
  dcheck (0 ≤ lastCommittedItemIndex ∧ lastCommittedItemIndex < items.length)
  let session ← restoredSession env lastCommittedItemIndex items
  return ⟨baseUrl, kRestoreSessionSessionHashPrefix ++
    codec.escapeQueryParamValue (codec.jsonWrite session)⟩

/-! ## The page -/

structure HistoryEntry where
  title : String
  url : String
  deriving DecidableEq, Repr

inductive PageResult where
  | restored (history : History HistoryEntry)
  | redirected (targetUrl : String)
  | failed (message : String)

def orElse (value : Option String) (otherwise : String) : String :=
  match value with
  | some text => if text = "" then otherwise else text
  | none => otherwise

def getRestoreURL (targetUrl : String) : String :=
  baseUrl ++ "#" ++ kRestoreSessionTargetUrlHashPrefix ++ codec.encodeURIComponent targetUrl

def entryAt (session : SessionDictionary) (position : Nat) : HistoryEntry where
  title := orElse session.titles[position]? "Untitled"
  url := getRestoreURL codec baseUrl (orElse session.urls[position]? "about:blank")

/-- The first entry replaces the one of the page, the others are pushed. -/
def replay (session : SessionDictionary) (history : History HistoryEntry) :
    History HistoryEntry :=
  (List.range' 1 (session.urls.length - 1)).foldl
    (fun history position => history.pushState (entryAt codec baseUrl session position))
    (history.replaceState (entryAt codec baseUrl session 0))

def restoreSession (sessionHistory : String) (history : History HistoryEntry) : PageResult :=
  match codec.jsonParse sessionHistory with
  | none => .failed ("raw session history: " ++ sessionHistory)
  | some session =>
    if session.urls.length < 1 then .failed "sessionHistory is empty"
    else .restored ((replay codec baseUrl session history).go session.offset)

def extractHashValueForPrefix (hash pre : String) : Option String :=
  if pre.toList <+: hash.toList then
    some (codec.decodeURIComponent (String.ofList (hash.toList.drop pre.length)))
  else none

def truthy (text : Option String) : Option String := text.filter (· ≠ "")

def onLoad (hash : String) (history : History HistoryEntry) : PageResult :=
  match truthy (extractHashValueForPrefix codec hash "#session=") with
  | some sessionHistory => restoreSession codec baseUrl sessionHistory history
  | none =>
    match truthy (extractHashValueForPrefix codec hash "#targetUrl=") with
    | some targetUrl => .redirected targetUrl
    | none => .failed "Missing both sessionHistory and targetUrl"

end

/-! ## Delivery -/

section

variable {env : NavigationEnvironment} {codec : SessionCodec} {baseUrl : String}
variable {session : SessionDictionary}

theorem extractHashValueForPrefix_append (hash pre value : String) (split : hash = pre ++ value) :
    extractHashValueForPrefix codec hash pre = some (codec.decodeURIComponent value) := by
  subst split
  simp only [extractHashValueForPrefix]
  rw [if_pos (by simp), String.toList_append,
    ← String.length_toList, List.drop_left, String.ofList_toList]

/-- A dictionary that is delivered is replayed. -/
theorem onLoad_delivered (delivers : codec.Delivers session) (history : History HistoryEntry) :
    onLoad codec baseUrl (RestoreSessionUrl.hash ⟨baseUrl, kRestoreSessionSessionHashPrefix ++
        codec.escapeQueryParamValue (codec.jsonWrite session)⟩) history =
      restoreSession codec baseUrl (codec.jsonWrite session) history := by
  have received : extractHashValueForPrefix codec (RestoreSessionUrl.hash ⟨baseUrl,
      kRestoreSessionSessionHashPrefix ++
        codec.escapeQueryParamValue (codec.jsonWrite session)⟩) "#session=" =
      some (codec.jsonWrite session) := by
    have split : RestoreSessionUrl.hash ⟨baseUrl, kRestoreSessionSessionHashPrefix ++
        codec.escapeQueryParamValue (codec.jsonWrite session)⟩ =
          "#session=" ++ codec.escapeQueryParamValue (codec.jsonWrite session) := by
      rfl
    rw [extractHashValueForPrefix_append _ _ _ split, delivers.unescapes]
  simp only [onLoad]
  rw [received]
  simp only [truthy, Option.filter, delivers.nonempty, ne_eq, not_false_eq_true, decide_true,
    if_true]

/-- The page restores the history by replaying the session and going by its offset. -/
theorem onLoad_restores (baseUrl : String) (delivers : codec.Delivers session)
    (nonempty : 0 < session.urls.length) (loaded : History HistoryEntry) :
    onLoad codec baseUrl (RestoreSessionUrl.hash ⟨baseUrl, kRestoreSessionSessionHashPrefix ++
        codec.escapeQueryParamValue (codec.jsonWrite session)⟩) loaded =
      .restored ((replay codec baseUrl session loaded).go session.offset) := by
  rw [onLoad_delivered delivers]
  simp only [restoreSession]
  rw [delivers.parses]
  exact if_neg (by omega)

variable (codec : SessionCodec) (baseUrl : String)

/-- The replay writes one entry for every URL, from the current entry on, and
ends at the last of them. -/
theorem replay_spec (nonempty : 0 < session.urls.length) (loaded : History HistoryEntry) :
    (replay codec baseUrl session loaded).current + 1 =
        loaded.current + session.urls.length ∧
      (∀ position, position < session.urls.length →
        (replay codec baseUrl session loaded).entries[loaded.current + position]? =
          some (entryAt codec baseUrl session position)) ∧
      (1 < session.urls.length → (replay codec baseUrl session loaded).entries.length =
        loaded.current + session.urls.length) := by
  obtain ⟨current, written, length⟩ := loaded.replaceState_foldl_pushState
    (entryAt codec baseUrl session 0)
    ((List.range' 1 (session.urls.length - 1)).map (entryAt codec baseUrl session))
  rw [List.foldl_map, List.length_map, List.length_range'] at current written length
  refine ⟨?_, ?_, ?_⟩
  · simp only [replay]
    rw [current]
    omega
  · simp only [replay]
    grind
  · intro several
    simp only [replay]
    rw [length]
    · omega
    · grind [List.length_nil]

/--
Going by the offset ends at the entry that the offset says, counted from the
last one, and at the last one if the offset is positive.
-/
theorem replay_go_current (nonempty : 0 < session.urls.length) (loaded : History HistoryEntry)
    (back : 1 ≤ session.urls.length + session.offset)
    (ahead : 0 < session.offset → 1 < session.urls.length) :
    (((replay codec baseUrl session loaded).go session.offset).current : Int) + 1 =
      loaded.current + session.urls.length + min session.offset 0 := by
  grind [replay_spec, History.go_current_of_outside, History.go_current_of_inside]

end

/-! ## The entry that is current in the end -/

section

variable (env : NavigationEnvironment) (codec : SessionCodec) (baseUrl : String)

def entryFor (item : NavigationItem) : HistoryEntry where
  title := orElse (some item.title) "Untitled"
  url := getRestoreURL codec baseUrl (orElse (some (restoredUrl env item)) "about:blank")

/--
The URL is made, the page that was loaded from it restores the history, and the
current entry is the one written for the last committed item.  The entries of
the items sent are written in order from the entry of the page on.
-/
def RestoresCurrent (lastCommittedItemIndex : Int) (items : List NavigationItem)
    (loaded : History HistoryEntry) : Prop :=
  ∃ url history,
    createRestoreSessionUrl env codec baseUrl lastCommittedItemIndex items = some url ∧
    onLoad codec baseUrl url.hash loaded = .restored history ∧
    (history.current : Int) = loaded.current + (lastCommittedItemIndex -
      (getSafeItemIterators lastCommittedItemIndex.toNat items.length).1) ∧
    history.entries[history.current]? =
      (items[lastCommittedItemIndex.toNat]?).map (entryFor env codec baseUrl)

end

section

variable {env : NavigationEnvironment} {codec : SessionCodec} {baseUrl : String}
variable {items : List NavigationItem} {index : Nat} {session : SessionDictionary}

/-- What is sent when the window is inside the items. -/
theorem restoredSession_eq_some_iff (env : NavigationEnvironment) (index : Nat)
    (items : List NavigationItem) :
    restoredSession env index items = some session ↔
      (getSafeItemIterators index items.length).2 ≤ items.length ∧
      session = {
        offset := index + 1 - ((getSafeItemIterators index items.length).2 -
          (getSafeItemIterators index items.length).1 : Nat)
        urls := ((items.take (getSafeItemIterators index items.length).2).drop
          (getSafeItemIterators index items.length).1).map (restoredUrl env)
        titles := ((items.take (getSafeItemIterators index items.length).2).drop
          (getSafeItemIterators index items.length).1).map NavigationItem.title } := by
  simp only [restoredSession]
  rw [Int.toNat_natCast]
  grind [dcheck]

/-- The entry at a position is the one for the item that was sent there. -/
theorem entryAt_restoredSession (codec : SessionCodec) (baseUrl : String) (position : Nat)
    (sent : restoredSession env index items = some session)
    (bound : (getSafeItemIterators index items.length).1 + position <
      (getSafeItemIterators index items.length).2) :
    (items[(getSafeItemIterators index items.length).1 + position]?).map
        (entryFor env codec baseUrl) = some (entryAt codec baseUrl session position) := by
  obtain ⟨inside, rfl⟩ := (restoredSession_eq_some_iff ..).mp sent
  have found : items[(getSafeItemIterators index items.length).1 + position]? =
      some (items[(getSafeItemIterators index items.length).1 + position]) :=
    List.getElem?_eq_getElem (by omega)
  simp [entryAt, entryFor, found, bound]

theorem length_urls_restoredSession
    (sent : restoredSession env index items = some session) :
    session.urls.length + (getSafeItemIterators index items.length).1 =
      max (getSafeItemIterators index items.length).1
        (getSafeItemIterators index items.length).2 := by
  grind [restoredSession_eq_some_iff]

theorem createRestoreSessionUrl_eq_some_iff {url : RestoreSessionUrl}
    (inside : index < items.length) :
    createRestoreSessionUrl env codec baseUrl index items = some url ↔
      ∃ session, restoredSession env index items = some session ∧
        url = ⟨baseUrl, kRestoreSessionSessionHashPrefix ++
          codec.escapeQueryParamValue (codec.jsonWrite session)⟩ := by
  constructor
  · intro made
    obtain ⟨_, made⟩ := dcheck_bind_eq_some.mp made
    obtain ⟨session, sent, result⟩ := Option.bind_eq_some_iff.mp made
    grind
  · rintro ⟨session, sent, rfl⟩
    exact dcheck_bind_eq_some.mpr ⟨by omega, Option.bind_eq_some_iff.mpr ⟨session, sent, rfl⟩⟩

/-- The window contains the last committed item and has the size it should have,
although it may end behind the last item. -/
theorem getSafeItemIterators_spec (inside : index < items.length) :
    (getSafeItemIterators index items.length).1 ≤ index ∧
      index < (getSafeItemIterators index items.length).2 ∧
      (getSafeItemIterators index items.length).2 =
        (getSafeItemIterators index items.length).1 + min items.length kMaxSessionSize := by
  unfold getSafeItemIterators kMaxSessionSize
  split_ifs <;> dsimp only <;> omega

/-- The items sent are a part of the list, as long as a session may be, with the current one. -/
structure SafeItems (lastCommittedItemIndex : Int) (items : List NavigationItem) : Prop where
  inside : (getSafeItemIterators lastCommittedItemIndex.toNat items.length).2 ≤ items.length
  contains : (getSafeItemIterators lastCommittedItemIndex.toNat items.length).1 ≤
      lastCommittedItemIndex ∧
    lastCommittedItemIndex < (getSafeItemIterators lastCommittedItemIndex.toNat items.length).2
  length : (getSafeItemIterators lastCommittedItemIndex.toNat items.length).2 -
      (getSafeItemIterators lastCommittedItemIndex.toNat items.length).1 =
    min items.length kMaxSessionSize

/--
The last branch takes half a session on both sides of the current item.  It is
one item too many on the right if half a session, the current item included, is
left there.
-/
theorem getSafeItemIterators_inside (bound : index < items.length) :
    (getSafeItemIterators index items.length).2 ≤ items.length ↔
      ¬(kMaxSessionSize < items.length ∧ items.length = index + kMaxSessionSize / 2) := by
  grind [getSafeItemIterators]

theorem safeItems_iff {lastCommittedItemIndex : Int}
    (committed : 0 ≤ lastCommittedItemIndex ∧ lastCommittedItemIndex < items.length) :
    SafeItems lastCommittedItemIndex items ↔
      ¬(kMaxSessionSize < items.length ∧
        items.length - lastCommittedItemIndex = (kMaxSessionSize / 2 : Nat)) := by
  obtain ⟨index, rfl⟩ := Int.eq_ofNat_of_zero_le committed.1
  have bound : index < items.length := by omega
  obtain ⟨first, last, size⟩ := getSafeItemIterators_spec bound
  have window := getSafeItemIterators_inside bound
  constructor
  · intro safe
    have inside := window.mp safe.inside
    omega
  · intro elsewhere
    refine ⟨window.mpr (by omega), ⟨?_, ?_⟩, ?_⟩
    · exact Int.ofNat_le.mpr first
    · exact Int.ofNat_lt.mpr last
    · rw [Int.toNat_natCast]
      omega

/-- Twice as many items as may be sent, with the current one in the middle. -/
theorem safeItems_middle : SafeItems kMaxSessionSize
    (List.replicate (2 * kMaxSessionSize) { url := ⟨"http://www.0.com"⟩ }) :=
  (safeItems_iff (by decide +kernel)).mpr (by decide +kernel)

/-- Of 76 items, those up to the position 77 are sent for the current one at 39. -/
theorem not_safeItems_half : ¬ SafeItems 39
    (List.replicate (kMaxSessionSize + 1) { url := ⟨"http://www.0.com"⟩ }) := by
  intro safe
  have inside := safe.inside
  revert inside
  decide

theorem restoresCurrent_of_sent (inside : index < items.length)
    (sent : restoredSession env index items = some session)
    (delivers : codec.Delivers session) (loaded : History HistoryEntry) :
    RestoresCurrent env codec baseUrl index items loaded ↔
      min index (min items.length kMaxSessionSize - 1) +
        (getSafeItemIterators index items.length).1 = index := by
  obtain ⟨first, last, size⟩ := getSafeItemIterators_spec inside
  have length := length_urls_restoredSession sent
  have offset : session.offset = index + 1 - session.urls.length := by
    grind [restoredSession_eq_some_iff]
  have nonempty : 0 < session.urls.length := by omega
  have current := replay_go_current codec baseUrl nonempty loaded (by omega)
    (by unfold kMaxSessionSize at size; omega)
  have loads := onLoad_restores baseUrl delivers nonempty loaded
  constructor
  · grind [RestoresCurrent, createRestoreSessionUrl_eq_some_iff]
  · intro place
    refine ⟨_, _, by simp [createRestoreSessionUrl, inside, sent], loads,
      ?_, ?_⟩
    · rw [Int.toNat_natCast]
      omega
    · obtain ⟨_, written, _⟩ := replay_spec codec baseUrl nonempty loaded
      have entry := entryAt_restoredSession codec baseUrl
        (index - (getSafeItemIterators index items.length).1) sent (by omega)
      grind [History.go_entries]

/--
The current entry after a restoration is the one for the last committed item
exactly if no item is left out, or the last committed item is in the first half
of a full session, or it is the last item.
-/
theorem restoresCurrent_iff {lastCommittedItemIndex : Int}
    (inside : 0 ≤ lastCommittedItemIndex ∧ lastCommittedItemIndex < items.length)
    (delivers : ∀ session,
      restoredSession env lastCommittedItemIndex items = some session →
        codec.Delivers session)
    (loaded : History HistoryEntry) :
    RestoresCurrent env codec baseUrl lastCommittedItemIndex items loaded ↔
      items.length ≤ kMaxSessionSize ∨ lastCommittedItemIndex ≤ (kMaxSessionSize / 2 : Nat) ∨
        lastCommittedItemIndex = items.length - 1 := by
  obtain ⟨index, rfl⟩ := Int.eq_ofNat_of_zero_le inside.1
  have bound : index < items.length := by omega
  by_cases window : (getSafeItemIterators index items.length).2 ≤ items.length
  · have sent := (restoredSession_eq_some_iff env index items).mpr ⟨window, rfl⟩
    grind [kMaxSessionSize, restoresCurrent_of_sent bound sent (delivers _ sent) loaded,
      getSafeItemIterators]
  · refine iff_of_false ?_ ?_
    · grind [RestoresCurrent, createRestoreSessionUrl_eq_some_iff, restoredSession_eq_some_iff]
    · grind [kMaxSessionSize, getSafeItemIterators]

end

/-! ## Two sessions -/

/-- The text of a dictionary whose strings need no escaping in JSON. -/
def plainJson : String :=
  let array (texts : List String) : String :=
    "[" ++ ",".intercalate (texts.map fun text => "\"" ++ text ++ "\"") ++ "]"
  "\x7b\"offset\":" ++ (toString session.offset ++ ",\"titles\":" ++ array session.titles ++
    ",\"urls\":" ++ array session.urls ++ "\x7d")

/-- Escapes every byte but those of letters, digits and a few marks. -/
def percentEscape (text : String) : String :=
  String.join (text.toList.map fun character =>
    if character.isAlphanum || "-_.!~*'()".toList.contains character then character.toString
    else String.join (character.toString.toUTF8.toList.map fun byte =>
      "%" ++ String.ofList [Nat.digitChar (byte.toNat / 16), Nat.digitChar (byte.toNat % 16)]))

/-- Library functions that are right for one session. -/
def codecFor : SessionCodec where
  jsonWrite := plainJson
  escapeQueryParamValue := percentEscape
  decodeURIComponent := fun text =>
    if text = percentEscape (plainJson session) then plainJson session else text
  encodeURIComponent := percentEscape
  jsonParse := fun text => if text = plainJson session then some session else none

theorem codecFor_delivers : (codecFor session).Delivers session where
  unescapes := by simp only [codecFor, if_true]
  nonempty := by
    simp [codecFor, plainJson]
  parses := by simp only [codecFor, if_true]

def numberedItems (count : Nat) : List NavigationItem :=
  (List.range count).map fun number => { url := ⟨toString number⟩, title := toString number }

def loadedPage : History HistoryEntry := ⟨[⟨"", "restore_session.html"⟩], 0, by decide⟩

/-- The second of three items is restored as the current one. -/
theorem restoresCurrent_three :
    ∃ session, restoredSession plainEnvironment 1 (numberedItems 3) = some session ∧
      RestoresCurrent plainEnvironment (codecFor session) "restore_session.html" 1
        (numberedItems 3) loadedPage := by
  have sent := (restoredSession_eq_some_iff plainEnvironment 1 (numberedItems 3)).mpr
    ⟨by decide, rfl⟩
  refine ⟨_, sent, (restoresCurrent_iff (by decide) ?_ loadedPage).mpr (.inl (by decide))⟩
  intro session sentSession
  cases Option.some.inj (sent.symm.trans sentSession)
  exact codecFor_delivers _

/-- Of 76 items, the one at 38 is not the current one after it should be restored. -/
theorem not_restoresCurrent_trimmed :
    ∃ session, restoredSession plainEnvironment 38 (numberedItems 76) = some session ∧
      (codecFor session).Delivers session ∧
      ¬ RestoresCurrent plainEnvironment (codecFor session) "restore_session.html" 38
        (numberedItems 76) loadedPage := by
  have sent := (restoredSession_eq_some_iff plainEnvironment 38 (numberedItems 76)).mpr
    ⟨by decide, rfl⟩
  refine ⟨_, sent, codecFor_delivers _, ?_⟩
  rw [show (38 : Int) = (38 : Nat) from rfl,
    restoresCurrent_of_sent (by decide) sent (codecFor_delivers _) loadedPage]
  decide

end ChromiumIos
