import ChromiumIos.Lib.Runs
import ChromiumIos.Net.Cookies.CookieCache

/-!
# A cookie store over the cookies of the system

The store reads the cookies of the system and keeps two copies.  The cookie
monster is filled from time to time, so that the cookies reach the disk; the
cache of cookies holds those with observers.  The system copies its cookies when
it is asked for them, and the copies come back later, in the order in which they
were asked for.

The store is modelled with the system's cookies, the copies under way and the
delayed tasks.  The number of notifications so far is kept to tell how recent a
copy is.
-/

namespace ChromiumIos

open Lib CookieCache

/-- The cookies of the system: a cookie takes the place of one with its domain, path and name. -/
structure SystemCookies (Attributes : Type) where
  cookies : List (CanonicalCookie Attributes)
  distinct : cookies.Pairwise fun first second => first.key ≠ second.key

namespace SystemCookies

variable {Attributes : Type}

def filter (keep : CanonicalCookie Attributes → Bool) (system : SystemCookies Attributes) :
    SystemCookies Attributes :=
  ⟨system.cookies.filter keep, system.distinct.filter _⟩

end SystemCookies

/-- A copy of the system's cookies and the number of notifications before it. -/
structure Snapshot (Attributes : Type) where
  systemCookies : SystemCookies Attributes
  notifications : Nat

/-- A copy that is under way, with what will be done with it. -/
inductive CookieReply (Url Attributes : Type) where
  | flushStoreFromCookies (snapshot : Snapshot Attributes)
  | updateCacheForCookies (url : Url) (name : String) (runCallbacks : Bool)
      (systemCookies : SystemCookies Attributes)

inductive CookieInput (Url Attributes : Type) where
  | systemCookiesChange (systemCookies : SystemCookies Attributes)
  | acceptPolicyChange (allowed : Bool)
  | onSystemCookiesChanged
  | runDelayedTask (closure : Nat)
  | flushStore
  | runReply
  | addCallbackForCookie (url : Url) (name : String)
  | unsubscribe (subscription : Nat)

inductive CookieOutput (Url Attributes : Type) where
  | notified (subscription : Nat) (change : Change Attributes)
  /-- All observers have been told of the cookies that a notification has found. -/
  | processed (url : Url) (name : String) (cookies : List (CanonicalCookie Attributes))
  | unsubscribed (subscription : Nat)

abbrev HookKey (Url : Type) := Url ×ₗ String

structure CookieStoreIOS (Url Attributes : Type) [LinearOrder Url] where
  systemCookies : SystemCookies Attributes
  systemCookiesAllowed : Bool
  notifications : Nat
  replies : List (CookieReply Url Attributes)
  delayedTasks : List Nat
  nextClosure : Nat
  nextSubscription : Nat
  /-- The copy that the monster was last filled from. -/
  cookieMonster : Option (Snapshot Attributes)
  flushClosure : Option Nat
  cookieCache : CookieCache Url Attributes
  hookMap : OrderedSet (id : HookKey Url → HookKey Url)
  /-- The subscriptions of each hook; there are none without a hook. -/
  callbacks : Url → String → List Nat

namespace CookieStoreIOS

variable {Url Attributes : Type} [LinearOrder Url]

def initial (systemCookies : SystemCookies Attributes) (allowed : Bool) :
    CookieStoreIOS Url Attributes where
  systemCookies := systemCookies
  systemCookiesAllowed := allowed
  notifications := 0
  replies := []
  delayedTasks := []
  nextClosure := 0
  nextSubscription := 0
  cookieMonster := none
  flushClosure := none
  cookieCache := .initial
  hookMap := .empty
  callbacks := fun _ _ => []

/-! ## Flushes -/

def flushStore (state : CookieStoreIOS Url Attributes) : CookieStoreIOS Url Attributes :=
  if state.systemCookiesAllowed then
    { state with
      replies := state.replies ++
        [.flushStoreFromCookies ⟨state.systemCookies, state.notifications⟩] }
  else
    -- The cookies on the disk are not touched while the system has none.
    { state with flushClosure := none }

def flushStoreFromCookies (state : CookieStoreIOS Url Attributes)
    (snapshot : Snapshot Attributes) : CookieStoreIOS Url Attributes :=
  { state with cookieMonster := some snapshot, flushClosure := none }

def runDelayedTask (state : CookieStoreIOS Url Attributes) (closure : Nat) :
    CookieStoreIOS Url Attributes :=
  let after := { state with delayedTasks := state.delayedTasks.erase closure }
  if state.flushClosure = some closure then after.flushStore else after

/-! ## Changes -/

variable (sends : Url → CanonicalCookie Attributes → Bool)
variable (state : CookieStoreIOS Url Attributes) (url : Url) (name : String)

def updateCacheForCookieFromSystem (runCallbacks : Bool) : CookieStoreIOS Url Attributes :=
  { state with
    replies := state.replies ++
      [.updateCacheForCookies url name runCallbacks (state.systemCookies.filter (sends url))] }

def scheduleFlush : CookieStoreIOS Url Attributes :=
  if state.flushClosure.isSome then state
  else
    { state with
      flushClosure := some state.nextClosure
      delayedTasks := state.delayedTasks ++ [state.nextClosure]
      nextClosure := state.nextClosure + 1 }

def onSystemCookiesChanged : CookieStoreIOS Url Attributes :=
  let posted := state.hookMap.elements.foldl
    (fun state hook =>
      state.updateCacheForCookieFromSystem sends (ofLex hook).1 (ofLex hook).2 true) state
  posted.scheduleFlush

/-- The first callback for a URL and a name has the cache filled. -/
def prefill : CookieStoreIOS Url Attributes :=
  if toLex (url, name) ∈ state.hookMap then state
  else
    { state.updateCacheForCookieFromSystem sends url name false with
      hookMap := state.hookMap.insert (toLex (url, name)) }

def addCallbackForCookie : CookieStoreIOS Url Attributes :=
  let prefilled := state.prefill sends url name
  { prefilled with
    callbacks := fun otherUrl otherName =>
      if otherUrl = url ∧ otherName = name then
        prefilled.callbacks url name ++ [prefilled.nextSubscription]
      else prefilled.callbacks otherUrl otherName
    nextSubscription := prefilled.nextSubscription + 1 }

def unsubscribe (subscription : Nat) : CookieStoreIOS Url Attributes :=
  { state with
    callbacks := fun url name => (state.callbacks url name).filter (· ≠ subscription) }

def runCallbacksForCookies (cookies : List (CanonicalCookie Attributes))
    (cause : CookieChangeCause) : Checked (List (CookieOutput Url Attributes)) :=
  if cookies.isEmpty then some []
  else do
    dcheck (toLex (url, name) ∈ state.hookMap)
    dcheck (∀ cookie ∈ cookies, cookie.name = name)
    return cookies.flatMap fun cookie =>
      (state.callbacks url name).map fun subscription => .notified subscription ⟨cookie, cause⟩

def updateCacheForCookies (runCallbacks : Bool) (systemCookies : SystemCookies Attributes) :
    Checked (CookieStoreIOS Url Attributes × List (CookieOutput Url Attributes)) := do
  let cookies := (systemCookies.filter fun cookie => cookie.name = name).cookies
  let (update, cookieCache) := state.cookieCache.update url name cookies
  let after := { state with cookieCache := cookieCache }
  if runCallbacks then
    if update.changed then
      let removals ← after.runCallbacksForCookies url name update.removed .unknownDeletion
      let additions ← after.runCallbacksForCookies url name update.added .inserted
      return (after, removals ++ additions ++ [.processed url name cookies])
    else return (after, [.processed url name cookies])
  else return (after, [])

def runReply :
    CookieReply Url Attributes →
      Checked (CookieStoreIOS Url Attributes × List (CookieOutput Url Attributes))
  | .flushStoreFromCookies snapshot => some (state.flushStoreFromCookies snapshot, [])
  | .updateCacheForCookies url name runCallbacks systemCookies =>
    state.updateCacheForCookies url name runCallbacks systemCookies

def step :
    CookieInput Url Attributes →
      Checked (CookieStoreIOS Url Attributes × List (CookieOutput Url Attributes))
  | .systemCookiesChange systemCookies => some ({ state with systemCookies := systemCookies }, [])
  | .acceptPolicyChange allowed => some ({ state with systemCookiesAllowed := allowed }, [])
  | .onSystemCookiesChanged =>
    some ({ state with notifications := state.notifications + 1 }.onSystemCookiesChanged sends,
      [])
  | .runDelayedTask closure => some (state.runDelayedTask closure, [])
  | .flushStore => some (state.flushStore, [])
  | .runReply =>
    match state.replies with
    | [] => none
    | reply :: rest => { state with replies := rest }.runReply reply
  | .addCallbackForCookie url name => some (state.addCallbackForCookie sends url name, [])
  | .unsubscribe subscription => some (state.unsubscribe subscription, [.unsubscribed subscription])

def Accepts : CookieInput Url Attributes → Prop
  | .runDelayedTask closure => closure ∈ state.delayedTasks
  | .runReply => state.replies ≠ []
  | _ => True

instance (input : CookieInput Url Attributes) : Decidable (Accepts state input) := by
  cases input <;> unfold Accepts <;> infer_instance

/-! ## Cookies of a site -/

def noCookies : SystemCookies Unit := ⟨[], .nil⟩

def oneCookie (value : String) : SystemCookies Unit :=
  ⟨[⟨"site", "/", "name", value, ()⟩], List.pairwise_singleton _ _⟩

/-- All pages are pages of the site. -/
def sendsAll : Nat → CanonicalCookie Unit → Bool := fun _ _ => true

end CookieStoreIOS

end ChromiumIos
