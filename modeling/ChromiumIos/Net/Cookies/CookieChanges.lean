import ChromiumIos.Net.Cookies.CookieStoreIOS

/-!
# Notifications of cookie changes

Whoever observes a URL and a name is told of every difference between the cookies
that the cache knows and those that a notification finds.  The changes told lead
from the cookies known when the observation began to those of each notification;
`KnowsCookies` says when the cookies known are those of the system.
-/

namespace ChromiumIos

open Lib CookieCache

/-- What a cookie store knows of its observers. -/
structure Observing (Url Attributes : Type) [LinearOrder Url] where
  replies : List (CookieReply Url Attributes)
  hookMap : OrderedSet (id : HookKey Url → HookKey Url)
  callbacks : Url → String → List Nat
  cookieCache : CookieCache Url Attributes
  nextSubscription : Nat

namespace Observing

variable {Url Attributes : Type} [LinearOrder Url]

def named (name : String) (systemCookies : SystemCookies Attributes) :
    SystemCookies Attributes :=
  systemCookies.filter fun cookie => cookie.name = name

/-- The copy under way that will fill the cache for the first time, if there is one. -/
def prefilling (url : Url) (name : String) (replies : List (CookieReply Url Attributes)) :
    Option (SystemCookies Attributes) :=
  replies.findSome? fun reply =>
    match reply with
    | .updateCacheForCookies otherUrl otherName false systemCookies =>
      if otherUrl = url ∧ otherName = name then some systemCookies else none
    | _ => none

/-- The contents that the next notification is compared with. -/
def known (observing : Observing Url Attributes) (url : Url) (name : String) :
    Set CookieContent :=
  match prefilling url name observing.replies with
  | some systemCookies => contents (named name systemCookies).cookies
  | none => contents (observing.cookieCache.cache url name).elements

def subscribe (observing : Observing Url Attributes) (url : Url) (name : String) :
    Observing Url Attributes :=
  { observing with
    callbacks := fun otherUrl otherName =>
      if otherUrl = url ∧ otherName = name then
        observing.callbacks url name ++ [observing.nextSubscription]
      else observing.callbacks otherUrl otherName
    nextSubscription := observing.nextSubscription + 1 }

def unsubscribe (observing : Observing Url Attributes) (subscription : Nat) :
    Observing Url Attributes :=
  { observing with
    callbacks := fun url name => (observing.callbacks url name).filter (· ≠ subscription) }

def hook (observing : Observing Url Attributes) (url : Url) (name : String)
    (systemCookies : SystemCookies Attributes) : Observing Url Attributes :=
  { observing with
    replies := observing.replies ++ [.updateCacheForCookies url name false systemCookies]
    hookMap := observing.hookMap.insert (toLex (url, name)) }

def update (observing : Observing Url Attributes) (rest : List (CookieReply Url Attributes))
    (url : Url) (name : String) (systemCookies : SystemCookies Attributes) :
    Observing Url Attributes :=
  { observing with
    replies := rest
    cookieCache := (observing.cookieCache.update url name (named name systemCookies).cookies).2 }

/-- All that the observers of a URL and a name are told of a copy. -/
def notifications (observing : Observing Url Attributes) (url : Url) (name : String)
    (systemCookies : SystemCookies Attributes) : List (CookieOutput Url Attributes) :=
  (observing.cookieCache.update url name (named name systemCookies).cookies).1.changes.flatMap
    fun change => (observing.callbacks url name).map fun subscription =>
      .notified subscription change

theorem notifications_of_unchanged {observing : Observing Url Attributes} {url : Url}
    {name : String} {systemCookies : SystemCookies Attributes}
    (unchanged : (observing.cookieCache.update url name
      (named name systemCookies).cookies).1.changed = false) :
    observing.notifications url name systemCookies = [] := by
  unfold notifications
  rw [changes_of_unchanged unchanged]
  rfl

/-- A copy that a notification asks for has a hook, and its changes are told. -/
def Posted (hookMap : OrderedSet (id : HookKey Url → HookKey Url)) :
    CookieReply Url Attributes → Prop
  | .flushStoreFromCookies _ => True
  | .updateCacheForCookies url name runCallbacks _ =>
    runCallbacks = true ∧ toLex (url, name) ∈ hookMap

inductive Moves : Observing Url Attributes → List (CookieOutput Url Attributes) →
    Observing Url Attributes → Prop where
  | post (observing : Observing Url Attributes) (more : List (CookieReply Url Attributes))
      (posted : ∀ reply ∈ more, Posted observing.hookMap reply) :
      Moves observing [] { observing with replies := observing.replies ++ more }
  | subscribe (observing : Observing Url Attributes) (url : Url) (name : String)
      (isHooked : toLex (url, name) ∈ observing.hookMap) :
      Moves observing [] (observing.subscribe url name)
  | hook (observing : Observing Url Attributes) (url : Url) (name : String)
      (systemCookies : SystemCookies Attributes) (isNew : toLex (url, name) ∉ observing.hookMap) :
      Moves observing [] ((observing.hook url name systemCookies).subscribe url name)
  | unsubscribe (observing : Observing Url Attributes) (subscription : Nat) :
      Moves observing [.unsubscribed subscription] (observing.unsubscribe subscription)
  | flush (observing : Observing Url Attributes) (snapshot : Snapshot Attributes)
      (rest : List (CookieReply Url Attributes))
      (front : observing.replies = .flushStoreFromCookies snapshot :: rest) :
      Moves observing [] { observing with replies := rest }
  | fill (observing : Observing Url Attributes) (url : Url) (name : String)
      (systemCookies : SystemCookies Attributes) (rest : List (CookieReply Url Attributes))
      (front : observing.replies = .updateCacheForCookies url name false systemCookies :: rest) :
      Moves observing [] (observing.update rest url name systemCookies)
  | tell (observing : Observing Url Attributes) (url : Url) (name : String)
      (systemCookies : SystemCookies Attributes) (rest : List (CookieReply Url Attributes))
      (front : observing.replies = .updateCacheForCookies url name true systemCookies :: rest) :
      Moves observing
        (observing.notifications url name systemCookies ++
          [.processed url name (named name systemCookies).cookies])
        (observing.update rest url name systemCookies)

end Observing

namespace CookieStoreIOS

variable {Url Attributes : Type} [LinearOrder Url]

def observing (state : CookieStoreIOS Url Attributes) : Observing Url Attributes where
  replies := state.replies
  hookMap := state.hookMap
  callbacks := state.callbacks
  cookieCache := state.cookieCache
  nextSubscription := state.nextSubscription

section Moves

open Observing

variable {state after : CookieStoreIOS Url Attributes} {input : CookieInput Url Attributes}
variable {emitted : List (CookieOutput Url Attributes)}
variable {sends : Url → CanonicalCookie Attributes → Bool} {url : Url} {name : String}

/-- A notification asks for one copy for each hook. -/
theorem foldl_updateCacheForCookieFromSystem (hooks : List (HookKey Url))
    (state : CookieStoreIOS Url Attributes) :
    hooks.foldl (fun state hook => state.updateCacheForCookieFromSystem sends (ofLex hook).1
        (ofLex hook).2 true) state =
      { state with
        replies := state.replies ++ hooks.map fun hook =>
          .updateCacheForCookies (ofLex hook).1 (ofLex hook).2 true
            (state.systemCookies.filter (sends (ofLex hook).1)) } := by
  induction hooks generalizing state with
  | nil =>
    simp
  | cons _ _ ih =>
    rw [List.foldl_cons, ih]
    simp [updateCacheForCookieFromSystem]

theorem observing_scheduleFlush (state : CookieStoreIOS Url Attributes) :
    state.scheduleFlush.observing = state.observing := by
  unfold scheduleFlush
  split
  · rfl
  · rfl

theorem moves_onSystemCookiesChanged (state : CookieStoreIOS Url Attributes) :
    Moves state.observing [] (state.onSystemCookiesChanged sends).observing := by
  unfold onSystemCookiesChanged
  dsimp only
  rw [observing_scheduleFlush, foldl_updateCacheForCookieFromSystem]
  refine .post state.observing _ fun reply mem => ?_
  obtain ⟨_, isHook, rfl⟩ := List.mem_map.mp mem
  exact ⟨rfl, isHook⟩

theorem moves_flushStore (state : CookieStoreIOS Url Attributes) :
    Moves state.observing [] state.flushStore.observing := by
  unfold flushStore
  split
  · refine .post state.observing _ fun reply mem => ?_
    rw [List.mem_singleton.mp mem]
    trivial
  · have moves := Moves.post state.observing [] (by nofun)
    rwa [List.append_nil] at moves

theorem moves_addCallbackForCookie (state : CookieStoreIOS Url Attributes) (url : Url)
    (name : String) :
    Moves state.observing [] (state.addCallbackForCookie sends url name).observing := by
  unfold addCallbackForCookie prefill
  dsimp only
  split
  case isTrue isHooked => exact .subscribe state.observing url name isHooked
  case isFalse isNew =>
    exact .hook state.observing url name (state.systemCookies.filter (sends url)) isNew

theorem runCallbacksForCookies_eq_some {cookies : List (CanonicalCookie Attributes)}
    {cause : CookieChangeCause}
    (told : state.runCallbacksForCookies url name cookies cause = some emitted) :
    emitted = (cookies.map fun cookie => ⟨cookie, cause⟩).flatMap fun change =>
      (state.callbacks url name).map fun subscription => .notified subscription change := by
  unfold runCallbacksForCookies at told
  split at told
  case isTrue none =>
    grind
  case isFalse =>
    obtain ⟨-, told⟩ := dcheck_bind_eq_some.mp told
    obtain ⟨-, told⟩ := dcheck_bind_eq_some.mp told
    cases told
    rw [List.flatMap_map]

/-- A copy for the cache updates it and, after a notification, tells the changes. -/
theorem moves_updateCacheForCookies {runCallbacks : Bool}
    {systemCookies : SystemCookies Attributes} {rest : List (CookieReply Url Attributes)}
    (waiting : state.replies =
      .updateCacheForCookies url name runCallbacks systemCookies :: rest)
    (updated : { state with replies := rest }.updateCacheForCookies url name runCallbacks
      systemCookies = some (after, emitted)) :
    Moves state.observing emitted after.observing := by
  unfold updateCacheForCookies at updated
  dsimp only at updated
  cases runCallbacks with
  | false =>
    cases updated
    exact .fill state.observing url name systemCookies rest waiting
  | true =>
    have moves := Moves.tell state.observing url name systemCookies rest waiting
    rw [if_pos rfl] at updated
    split at updated
    case isTrue =>
      obtain ⟨_, toldRemovals, updated⟩ := Option.bind_eq_some_iff.mp updated
      obtain ⟨_, toldAdditions, updated⟩ := Option.bind_eq_some_iff.mp updated
      cases updated
      rw [runCallbacksForCookies_eq_some toldRemovals,
        runCallbacksForCookies_eq_some toldAdditions, ← List.flatMap_append]
      exact moves
    case isFalse unchanged =>
      cases updated
      rw [notifications_of_unchanged (Bool.eq_false_of_not_eq_true unchanged)] at moves
      exact moves

/-- Every step is a move. -/
theorem moves_of_step (stepped : step sends state input = some (after, emitted)) :
    Moves state.observing emitted after.observing := by
  have stays : Moves state.observing [] state.observing := by
    have moves := Moves.post state.observing [] (by nofun)
    rwa [List.append_nil] at moves
  cases input with
  | systemCookiesChange systemCookies | acceptPolicyChange allowed =>
    cases stepped
    exact stays
  | onSystemCookiesChanged =>
    cases stepped
    exact moves_onSystemCookiesChanged { state with notifications := state.notifications + 1 }
  | runDelayedTask _ =>
    cases stepped
    unfold runDelayedTask
    grind [observing, flushStore, moves_flushStore]
  | flushStore =>
    cases stepped
    exact moves_flushStore state
  | runReply =>
    unfold step at stepped
    dsimp only at stepped
    split at stepped
    · cases stepped
    case h_2 reply rest waiting =>
      cases reply with
      | flushStoreFromCookies snapshot =>
        cases stepped
        exact .flush state.observing snapshot rest waiting
      | updateCacheForCookies _ _ _ _ =>
        exact moves_updateCacheForCookies waiting stepped
  | addCallbackForCookie _ _ =>
    cases stepped
    simp [moves_addCallbackForCookie]
  | unsubscribe subscription =>
    cases stepped
    exact .unsubscribe state.observing subscription

end Moves

end CookieStoreIOS

namespace Observing

variable {Url Attributes : Type} [LinearOrder Url]

/-! ## Copies under way -/

/-- The second of two copies for one hook does not fill the cache. -/
def Later (first second : CookieReply Url Attributes) : Prop :=
  ∀ url name runCallbacks systemCookies other,
    first = .updateCacheForCookies url name runCallbacks systemCookies →
      second ≠ .updateCacheForCookies url name false other

/-- Copies are made for hooks, and only the first copy for a hook fills the cache. -/
structure Hooked (observing : Observing Url Attributes) : Prop where
  hooked : ∀ {url name runCallbacks systemCookies},
    .updateCacheForCookies url name runCallbacks systemCookies ∈ observing.replies →
      toLex (url, name) ∈ observing.hookMap
  first : observing.replies.Pairwise Later
  old : ∀ {url name subscription}, subscription ∈ observing.callbacks url name →
    subscription < observing.nextSubscription

variable {rest : List (CookieReply Url Attributes)}

section Copies

variable {observing after : Observing Url Attributes} {url otherUrl : Url}
variable {name otherName : String} {replies more : List (CookieReply Url Attributes)}
variable {systemCookies : SystemCookies Attributes} {runCallbacks : Bool}
variable {emitted : List (CookieOutput Url Attributes)}

theorem prefilling_append : prefilling url name (replies ++ more) =
    (prefilling url name replies).or (prefilling url name more) :=
  List.findSome?_append

theorem prefilling_cons (otherUrl : Url) (otherName : String)
    (systemCookies : SystemCookies Attributes) (rest : List (CookieReply Url Attributes)) :
    prefilling url name
        (.updateCacheForCookies otherUrl otherName false systemCookies :: rest) =
      if otherUrl = url ∧ otherName = name then some systemCookies
      else prefilling url name rest := by
  unfold prefilling
  grind

theorem prefilling_eq_none (others : ∀ systemCookies,
    .updateCacheForCookies url name false systemCookies ∉ replies) :
    prefilling url name replies = none := by
  grind [prefilling]

variable {hookMap : OrderedSet (id : HookKey Url → HookKey Url)}

theorem prefilling_posted (posted : ∀ reply ∈ more, Posted hookMap reply) :
    prefilling url name more = none :=
  prefilling_eq_none fun _ mem => nomatch (posted _ mem).1

theorem Hooked.prefilling_rest (hooked : observing.Hooked) (front : observing.replies =
      .updateCacheForCookies url name runCallbacks systemCookies :: rest) :
    prefilling url name rest = none := by
  have first := hooked.first
  rw [front] at first
  exact prefilling_eq_none fun _ mem =>
    (List.pairwise_cons.mp first).1 _ mem _ _ _ _ _ rfl rfl

theorem Hooked.pop {reply : CookieReply Url Attributes} {cookieCache : CookieCache Url Attributes}
    (hooked : observing.Hooked) (front : observing.replies = reply :: rest) :
    Hooked { observing with replies := rest, cookieCache := cookieCache } where
  hooked mem := hooked.hooked (front ▸ List.mem_cons_of_mem _ mem)
  first := (List.pairwise_cons.mp (front ▸ hooked.first)).2
  old := hooked.old

theorem later_of_posted {first second : CookieReply Url Attributes}
    (posted : Posted hookMap second) : Later first second := by
  rintro url name runCallbacks systemCookies other - rfl
  exact nomatch posted.1

theorem Hooked.post (hooked : observing.Hooked)
    (posted : ∀ reply ∈ more, Posted observing.hookMap reply) :
    Hooked { observing with replies := observing.replies ++ more } where
  hooked mem := by
    rcases List.mem_append.mp mem with mem | mem
    · exact hooked.hooked mem
    · exact (posted _ mem).2
  first := by
    refine List.pairwise_append.mpr ⟨hooked.first, ?_, fun _ _ second mem => ?_⟩
    · grind [List.pairwise_of_forall_mem_list, later_of_posted]
    · exact later_of_posted (posted second mem)
  old := hooked.old

theorem mem_hookMap_hook (isNew : toLex (url, name) ∉ observing.hookMap) (key : HookKey Url) :
    key ∈ (observing.hook url name systemCookies).hookMap ↔
      key = toLex (url, name) ∨ key ∈ observing.hookMap := by
  refine OrderedSet.mem_insert fun other isHooked same => isNew ?_
  grind

theorem Hooked.hook (hooked : observing.Hooked) (isNew : toLex (url, name) ∉ observing.hookMap) :
    Hooked (observing.hook url name systemCookies) where
  hooked mem := by
    rw [mem_hookMap_hook isNew]
    rcases List.mem_append.mp mem with mem | mem
    · exact .inr (hooked.hooked mem)
    · grind
  first := by
    refine List.pairwise_append.mpr ⟨hooked.first, List.pairwise_singleton _ _, ?_⟩
    intro first memFirst second mem otherUrl otherName runCallbacks others other isFirst isSecond
    rw [List.mem_singleton.mp mem] at isSecond
    cases isSecond
    rw [isFirst] at memFirst
    exact isNew (hooked.hooked memFirst)
  old := hooked.old

theorem Hooked.subscribe (hooked : observing.Hooked) (url : Url) (name : String) :
    Hooked (observing.subscribe url name) where
  hooked := hooked.hooked
  first := hooked.first
  old {otherUrl otherName subscription} mem := by
    unfold Observing.subscribe at mem ⊢
    dsimp only at mem ⊢
    split at mem
    · rcases List.mem_append.mp mem with mem | mem
      · exact Nat.lt_succ_of_lt (hooked.old mem)
      · grind
    · exact Nat.lt_succ_of_lt (hooked.old mem)

/-- The moves keep the hooks. -/
theorem Hooked.moves (hooked : observing.Hooked) (moves : Moves observing emitted after) :
    after.Hooked := by
  cases moves with
  | post _ posted => exact hooked.post posted
  | subscribe url name => exact hooked.subscribe url name
  | hook url name _ isNew => exact (hooked.hook isNew).subscribe url name
  | unsubscribe _ =>
    exact ⟨hooked.hooked, hooked.first, fun mem => hooked.old (List.mem_of_mem_filter mem)⟩
  | flush snapshot rest front | fill url name systemCookies rest front
  | tell _ _ _ _ front => exact hooked.pop front

end Copies

/-! ## What a subscriber is told -/

def changesFor (subscription : Nat) (outputs : List (CookieOutput Url Attributes)) :
    List (Change Attributes) :=
  outputs.filterMap fun output =>
    match output with
    | .notified other change => if other = subscription then some change else none
    | _ => none

/-- After each notification the changes told so far lead from the given contents to those that
the notification has found, until the subscription ends. -/
def Replays (subscription : Nat) (url : Url) (name : String) (held : Set CookieContent)
    (outputs : List (CookieOutput Url Attributes)) : Prop :=
  ∀ seen cookies, seen ++ [.processed url name cookies] <+: outputs →
    .unsubscribed subscription ∉ seen →
      Follows held (changesFor subscription seen) (contents cookies)

/-- A subscription for a URL and a name, and for nothing else. -/
structure Registered (observing : Observing Url Attributes) (subscription : Nat) (url : Url)
    (name : String) : Prop where
  isHooked : toLex (url, name) ∈ observing.hookMap
  isOld : subscription < observing.nextSubscription
  count : ∀ otherUrl otherName, (observing.callbacks otherUrl otherName).count subscription =
    if otherUrl = url ∧ otherName = name then 1 else 0

section Subscriber

variable {observing after : Observing Url Attributes} {url otherUrl : Url}
variable {name otherName : String} {systemCookies : SystemCookies Attributes}
variable {outputs emitted more : List (CookieOutput Url Attributes)} {held : Set CookieContent}
variable {subscription : Nat}

omit [LinearOrder Url] in
theorem changesFor_append : changesFor subscription (outputs ++ more) =
    changesFor subscription outputs ++ changesFor subscription more :=
  List.filterMap_append

omit [LinearOrder Url] in
theorem changesFor_map (change : Change Attributes) (subscriptions : List Nat) :
    changesFor subscription (subscriptions.map fun other =>
        (.notified other change : CookieOutput Url Attributes)) =
      List.replicate (subscriptions.count subscription) change := by
  induction subscriptions with
  | nil => rfl
  | cons other _ ih =>
    unfold changesFor at ih ⊢
    rw [List.map_cons, List.filterMap_cons, ih, List.count_cons]
    by_cases same : other = subscription
    · simp [same, List.replicate_succ]
    · simp [same]

omit [LinearOrder Url] in
/-- Each change is told to a subscriber as often as it is subscribed. -/
theorem changesFor_flatMap (changes : List (Change Attributes)) (subscriptions : List Nat) :
    changesFor subscription (changes.flatMap fun change => subscriptions.map fun other =>
        (.notified other change : CookieOutput Url Attributes)) =
      changes.flatMap fun change =>
        List.replicate (subscriptions.count subscription) change := by
  induction changes with
  | nil => rfl
  | cons _ _ ih =>
    simp [changesFor_append, changesFor_map, ih]

theorem Registered.changesFor_notifications
    (registered : observing.Registered subscription url name) :
    changesFor subscription (observing.notifications otherUrl otherName systemCookies) =
      if otherUrl = url ∧ otherName = name then
        (observing.cookieCache.update otherUrl otherName
          (named otherName systemCookies).cookies).1.changes
      else [] := by
  unfold notifications
  rw [changesFor_flatMap, registered.count]
  split <;> simp

theorem Registered.moves (registered : observing.Registered subscription url name)
    (moves : Moves observing emitted after) (kept : .unsubscribed subscription ∉ emitted) :
    after.Registered subscription url name := by
  obtain ⟨isHooked, isOld, count⟩ := registered
  have subscribe {between : Observing Url Attributes}
      (registered : between.Registered subscription url name) (newUrl : Url) (newName : String) :
      (between.subscribe newUrl newName).Registered subscription url name := by
    refine ⟨registered.isHooked, Nat.lt_succ_of_lt registered.isOld, fun otherUrl otherName => ?_⟩
    rw [← registered.count]
    unfold Observing.subscribe
    dsimp only
    split
    case isTrue same =>
      rw [same.1, same.2, List.count_append, List.count_singleton]
      have differs : (between.nextSubscription == subscription) = false :=
        beq_false_of_ne (Nat.ne_of_gt registered.isOld)
      rw [differs]
      rfl
    case isFalse => rfl
  cases moves with
  | post more posted | flush snapshot rest front
  | fill otherUrl otherName systemCookies rest front
  | tell _ _ _ _ _ => exact ⟨isHooked, isOld, count⟩
  | subscribe newUrl newName => exact subscribe ⟨isHooked, isOld, count⟩ newUrl newName
  | hook newUrl newName systemCookies _ =>
    have hooked :
        (observing.hook newUrl newName systemCookies).Registered subscription url name :=
      ⟨OrderedSet.mem_insertInto_of_mem isHooked, isOld, count⟩
    exact subscribe hooked newUrl newName
  | unsubscribe _ =>
    refine ⟨isHooked, isOld, fun otherUrl otherName => ?_⟩
    rw [← count]
    refine List.count_filter (decide_eq_true fun same => kept ?_)
    simp [same]

/-- A copy at the front fills or updates the cache for its own URL and name only. -/
theorem known_update {runCallbacks : Bool} (hooked : observing.Hooked)
    (front : observing.replies =
      .updateCacheForCookies otherUrl otherName runCallbacks systemCookies :: rest) :
    (observing.update rest otherUrl otherName systemCookies).known url name =
      if otherUrl = url ∧ otherName = name then contents (named otherName systemCookies).cookies
      else observing.known url name := by
  by_cases same : otherUrl = url ∧ otherName = name
  · obtain ⟨rfl, rfl⟩ := same
    simpa [known, Observing.update, hooked.prefilling_rest front]
      using (follows_update (named otherName systemCookies).distinct).2
  · unfold known Observing.update
    have unfilled : prefilling url name observing.replies = prefilling url name rest := by
      rw [front]
      cases runCallbacks <;> simp [prefilling, if_neg same]
    grind [update_other]

/-- A new subscription is one for its URL and name. -/
theorem Hooked.registered_subscribe (hooked : observing.Hooked)
    (isHooked : toLex (url, name) ∈ observing.hookMap) :
    (observing.subscribe url name).Registered observing.nextSubscription url name := by
  refine ⟨isHooked, Nat.lt_succ_self _, fun otherUrl otherName => ?_⟩
  have isNew : ∀ otherUrl otherName,
      (observing.callbacks otherUrl otherName).count observing.nextSubscription = 0 :=
    fun _ _ => List.count_eq_zero_of_not_mem fun mem => Nat.lt_irrefl _ (hooked.old mem)
  unfold Observing.subscribe
  grind

/-- The first copy for a new hook is what is known. -/
theorem Hooked.known_hook (hooked : observing.Hooked)
    (isNew : toLex (url, name) ∉ observing.hookMap) :
    (observing.hook url name systemCookies).known url name =
      contents (named name systemCookies).cookies := by
  have others : prefilling url name observing.replies = none :=
    prefilling_eq_none fun _ mem => isNew (hooked.hooked mem)
  unfold known Observing.hook
  dsimp only
  rw [prefilling_append, others, prefilling_cons, if_pos ⟨rfl, rfl⟩]
  rfl

/-- The changes told lead from the cookies known before a move to those known after it. -/
theorem Registered.follows_known (registered : observing.Registered subscription url name)
    (hooked : observing.Hooked) (moves : Moves observing emitted after) :
    Follows (observing.known url name) (changesFor subscription emitted)
      (after.known url name) := by
  cases moves with
  | post more posted =>
    have same : prefilling url name (observing.replies ++ more) =
        prefilling url name observing.replies := by
      simp [prefilling_append, prefilling_posted posted]
    simpa [known, same] using .nil _
  | subscribe newUrl newName | unsubscribe other => exact .nil _
  | hook newUrl newName systemCookies isNew =>
    have others : prefilling url name
        [(.updateCacheForCookies newUrl newName false systemCookies :
          CookieReply Url Attributes)] = none := by
      refine prefilling_eq_none fun _ mem => ?_
      cases List.mem_singleton.mp mem
      exact isNew registered.isHooked
    unfold known Observing.subscribe Observing.hook
    simpa [prefilling_append, others] using .nil _
  | flush _ _ front =>
    unfold known
    rw [front]
    exact .nil _
  | fill otherUrl otherName systemCookies _ front =>
    rw [known_update hooked front]
    split
    case isTrue same =>
      obtain ⟨rfl, rfl⟩ := same
      have filling : prefilling otherUrl otherName observing.replies = some systemCookies := by
        simp [prefilling, front]
      simpa [known, filling] using .nil _
    case isFalse => exact .nil _
  | tell otherUrl otherName systemCookies _ front =>
    rw [known_update hooked front, changesFor_append, registered.changesFor_notifications]
    split
    case isTrue same =>
      obtain ⟨rfl, rfl⟩ := same
      have others := hooked.prefilling_rest front
      have unfilled : prefilling otherUrl otherName observing.replies = none :=
        (congrArg (prefilling otherUrl otherName) front).trans others
      unfold known
      rw [unfilled]
      exact (List.append_nil _).symm ▸ (follows_update (named otherName systemCookies).distinct).1
    case isFalse => exact .nil _

omit [LinearOrder Url] in
/-- What holds of the notifications so far and of those of one more step holds of them all. -/
theorem Replays.append (replays : Replays subscription url name held outputs)
    (told : ∀ seen cookies, seen ++ [.processed url name cookies] <+: emitted →
      .unsubscribed subscription ∉ outputs ++ seen →
        Follows held (changesFor subscription (outputs ++ seen)) (contents cookies)) :
    Replays subscription url name held (outputs ++ emitted) := by
  intro seen cookies isPrefix kept
  rcases List.prefix_or_prefix_of_prefix isPrefix (List.prefix_append outputs emitted) with
    before | beyond
  · exact replays seen cookies before kept
  · obtain ⟨more, joined⟩ := beyond
    rcases List.eq_nil_or_concat more with rfl | ⟨front, last, rfl⟩
    · rw [List.append_nil] at joined
      exact replays seen cookies (joined ▸ List.prefix_refl _) kept
    · grind [List.append_inj', List.prefix_append_right_inj]

/-- A subscriber that is told changes from the cookies that are known goes on to be told them. -/
theorem Replays.moves (replays : Replays subscription url name held outputs)
    (tracks : .unsubscribed subscription ∉ outputs →
      observing.Registered subscription url name ∧
        Follows held (changesFor subscription outputs) (observing.known url name))
    (hooked : observing.Hooked) (moves : Moves observing emitted after) :
    Replays subscription url name held (outputs ++ emitted) := by
  refine replays.append fun seen cookies isPrefix kept => ?_
  obtain ⟨registered, follows⟩ := tracks fun mem => kept (List.mem_append_left _ mem)
  have told := registered.follows_known hooked moves
  cases moves with
  | post more posted | subscribe newUrl newName | hook newUrl newName systemCookies isNew
  | flush snapshot rest front | fill otherUrl otherName systemCookies rest front =>
    exact absurd isPrefix (by simp)
  | unsubscribe _ =>
    simpa using isPrefix.subset
  | tell _ _ _ _ front =>
    rcases List.prefix_concat_iff.mp isPrefix with whole | early
    · obtain ⟨rfl, same⟩ := List.append_inj' whole rfl
      cases same
      rw [known_update hooked front, if_pos ⟨rfl, rfl⟩, changesFor_append] at told
      grind [changesFor, follows.append]
    · have mem := early.subset (List.mem_append_right _ List.mem_cons_self)
      obtain ⟨_, -, mem⟩ := List.mem_flatMap.mp mem
      simp at mem

end Subscriber

end Observing

namespace CookieStoreIOS

open Observing

variable {Url Attributes : Type} [LinearOrder Url]

/-! ## Runs -/

def systemContents (sends : Url → CanonicalCookie Attributes → Bool)
    (state : CookieStoreIOS Url Attributes) (url : Url) (name : String) : Set CookieContent :=
  contents (named name (state.systemCookies.filter (sends url))).cookies

def KnowsCookies (sends : Url → CanonicalCookie Attributes → Bool)
    (state : CookieStoreIOS Url Attributes) (url : Url) (name : String) : Prop :=
  toLex (url, name) ∈ state.hookMap →
    state.observing.known url name = state.systemContents sends url name

/-- A notification has been processed while the subscription lasted. -/
def Informed (subscription : Nat) (url : Url) (name : String)
    (outputs : List (CookieOutput Url Attributes)) : Prop :=
  ∃ seen cookies, seen ++ [.processed url name cookies] <+: outputs ∧
    .unsubscribed subscription ∉ seen

section Runs

variable {state last : CookieStoreIOS Url Attributes} {url : Url} {name : String}
variable {sends : Url → CanonicalCookie Attributes → Bool} {subscription : Nat}
variable {outputs before : List (CookieOutput Url Attributes)}
variable {systemCookies : SystemCookies Attributes} {allowed : Bool}

theorem run_hooked (run : Runs (step sends) Accepts (initial systemCookies allowed) outputs state) :
    state.observing.Hooked := by
  refine run.invariant (fun state => state.observing.Hooked) ⟨nofun, .nil, nofun⟩ ?_
  exact fun hooked _ stepped => hooked.moves (moves_of_step stepped)

/-- A subscriber is told changes from the cookies that are known when the run begins. -/
theorem run_replays_known (hooked : state.observing.Hooked)
    (registered : state.observing.Registered subscription url name)
    (run : Runs (step sends) Accepts state outputs last) :
    Replays subscription url name (state.observing.known url name) outputs := by
  have holds : last.observing.Hooked ∧
      (.unsubscribed subscription ∉ outputs → last.observing.Registered subscription url name ∧
        Follows (state.observing.known url name) (changesFor subscription outputs)
          (last.observing.known url name)) ∧
      Replays subscription url name (state.observing.known url name) outputs := by
    refine run.invariant_outputs (fun outputs last => last.observing.Hooked ∧
      (.unsubscribed subscription ∉ outputs → last.observing.Registered subscription url name ∧
        Follows (state.observing.known url name) (changesFor subscription outputs)
          (last.observing.known url name)) ∧
      Replays subscription url name (state.observing.known url name) outputs)
      ⟨hooked, fun _ => ⟨registered, .nil _⟩, ?_⟩ ?_
    · simp [Replays]
    · rintro outputs between after input emitted - ⟨hookedBetween, tracks, replays⟩ - stepped
      have moves := moves_of_step stepped
      refine ⟨hookedBetween.moves moves, fun kept => ?_, replays.moves tracks hookedBetween moves⟩
      obtain ⟨keptBefore, keptNow⟩ := not_or.mp (mt List.mem_append.mpr kept)
      obtain ⟨registeredBetween, follows⟩ := tracks keptBefore
      refine ⟨registeredBetween.moves moves keptNow, ?_⟩
      rw [changesFor_append]
      exact follows.append (registeredBetween.follows_known hookedBetween moves)
  exact holds.2.2

theorem registered_addCallbackForCookie (hooked : state.observing.Hooked) :
    (state.addCallbackForCookie sends url name).observing.Registered state.nextSubscription url
      name := by
  unfold addCallbackForCookie prefill
  dsimp only
  split
  case isTrue isHooked => exact hooked.registered_subscribe isHooked
  case isFalse isNew =>
    have hookedAfter :
        (state.observing.hook url name (state.systemCookies.filter (sends url))).Hooked :=
      hooked.hook isNew
    exact hookedAfter.registered_subscribe ((mem_hookMap_hook isNew _).mpr (.inl rfl))

/-- The cookies known at a new subscription are those known before, or those of the system. -/
theorem known_addCallbackForCookie (hooked : state.observing.Hooked) :
    (state.addCallbackForCookie sends url name).observing.known url name =
      if toLex (url, name) ∈ state.hookMap then state.observing.known url name
      else state.systemContents sends url name := by
  unfold addCallbackForCookie prefill
  dsimp only
  split
  case isTrue => rfl
  case isFalse isNew =>
    exact hooked.known_hook isNew

/-- The changes that a subscriber is told of lead from the cookies of the system at the time of
the subscription to those of each notification, one by one, just if these cookies were known. -/
theorem run_replays_iff
    (run : Runs (step sends) Accepts (initial systemCookies allowed) before state)
    (rest : Runs (step sends) Accepts (state.addCallbackForCookie sends url name) outputs last) :
    Replays state.nextSubscription url name (state.systemContents sends url name) outputs ↔
      (Informed state.nextSubscription url name outputs → KnowsCookies sends state url name) := by
  have hooked := run_hooked run
  have moves : Moves state.observing [] (state.addCallbackForCookie sends url name).observing :=
    moves_addCallbackForCookie state url name
  have replays :=
    run_replays_known (hooked.moves moves) (registered_addCallbackForCookie hooked) rest
  rw [known_addCallbackForCookie hooked] at replays
  constructor
  · rintro replaysSystem ⟨seen, cookies, isPrefix, kept⟩ isHooked
    rw [if_pos isHooked] at replays
    exact (replays seen cookies isPrefix kept).eq_of_same_last
      (replaysSystem seen cookies isPrefix kept)
  · grind [Informed, KnowsCookies, Replays]

end Runs

/-! ## Two subscribers -/

def observedSite : CookieStoreIOS Nat Unit :=
  { (initial noCookies true).addCallbackForCookie sendsAll 7 "name" with replies := [] }

theorem run_observedSite : Runs (step sendsAll) Accepts (initial noCookies true) [] observedSite :=
  Runs.replay [.addCallbackForCookie 7 "name", .runReply] .start rfl

/-- Another subscriber comes when the cookies are known, and is told of a cookie. -/
theorem run_replays_iff_known :
    ∃ outputs, (Replays 1 7 "name" (systemContents sendsAll observedSite 7 "name") outputs ↔
      (Informed 1 7 "name" outputs → KnowsCookies sendsAll observedSite 7 "name")) ∧
      KnowsCookies sendsAll observedSite 7 "name" ∧
      changesFor 1 outputs = (oneCookie "a").cookies.map fun cookie => ⟨cookie, .inserted⟩ := by
  have rest : Runs (step sendsAll) Accepts
      (observedSite.addCallbackForCookie sendsAll 7 "name") _ _ :=
    Runs.replay [.systemCookiesChange (oneCookie "a"), .onSystemCookiesChanged, .runReply] .start
      (Option.eq_some_of_isSome (by decide))
  exact ⟨_, run_replays_iff run_observedSite rest, fun _ => rfl, by decide⟩

/-- A subscriber that comes after a change is not told when the change is taken back, if another
subscriber for the same URL and name had come before it. -/
theorem run_staleSubscription :
    ∃ state before outputs last,
      Runs (step sendsAll) Accepts (initial noCookies true) before state ∧
      Runs (step sendsAll) Accepts (state.addCallbackForCookie sendsAll 7 "name") outputs last ∧
      ¬ Replays state.nextSubscription 7 "name" (state.systemContents sendsAll 7 "name")
        outputs := by
  have run : Runs (step sendsAll) Accepts (initial noCookies true) _ _ :=
    Runs.replay [.systemCookiesChange (oneCookie "a")] run_observedSite rfl
  have rest : Runs (step sendsAll) Accepts ({ observedSite with
      systemCookies := oneCookie "a" }.addCallbackForCookie sendsAll 7 "name") _ _ :=
    Runs.replay [.systemCookiesChange noCookies, .onSystemCookiesChanged,
      .onSystemCookiesChanged, .runReply, .runReply] .start (Option.eq_some_of_isSome (by decide))
  refine ⟨_, _, _, _, run, rest, fun replays => ?_⟩
  have follows := replays [] [] ⟨[.processed 7 "name" []], rfl⟩ List.not_mem_nil
  have held : ("site", "/", "name", "a") ∈
      ({ observedSite with systemCookies := oneCookie "a" } :
        CookieStoreIOS Nat Unit).systemContents sendsAll 7 "name" :=
    ⟨_, List.mem_singleton_self _, rfl⟩
  rw [← follows.eq_of_nil] at held
  obtain ⟨_, mem, -⟩ := held
  cases mem

end CookieStoreIOS

end ChromiumIos
