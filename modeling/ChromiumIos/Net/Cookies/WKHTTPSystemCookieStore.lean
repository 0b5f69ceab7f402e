import ChromiumIos.Net.Cookies.CookieCreationTimeManager

/-!
# The cookie store of WebKit and the creation times of its cookies

Calls on the IO thread go to the UI thread, which issues operations to the cookie store of
WebKit.  The store executes them in order and calls their completion handlers in order on the UI
thread, and these post the changes of the creation times back to the IO thread.  A clear reads
all cookies, deletes each of them, and clears the times when the last one has been deleted.
-/

namespace ChromiumIos

open Lib

inductive CookieUITask where
  | setCookie (cookie : NSHTTPCookie) (cookieTime : Time)
  | deleteCookie (cookie : NSHTTPCookie)
  | clear
deriving DecidableEq

/-- Operations that were issued to the store of WebKit; the cookies of a clear are deleted by
operations of their own. -/
inductive CookieOperation where
  | setCookie (cookie : NSHTTPCookie) (cookieTime : Time)
  | deleteCookie (cookie : NSHTTPCookie)
  | getAllCookies
  | clearCookie (clear : Nat) (cookie : NSHTTPCookie)
deriving DecidableEq

/-- Completion handlers of operations that were executed. -/
inductive CookieCompletion where
  | set (cookie : NSHTTPCookie) (cookieTime : Time)
  | deleted (cookie : NSHTTPCookie)
  | gotAll (cookies : List NSHTTPCookie)
  | cleared (clear : Nat)
deriving DecidableEq

inductive CookieIOTask where
  | setCreationTime (cookie : NSHTTPCookie) (cookieTime : Time)
  | deleteCreationTime (cookie : NSHTTPCookie)
  | clear
deriving DecidableEq

/-- A cookie of WebKit, with the time that `SetCookieAsync` was last called with for it, if it
was set by that. -/
structure StoredCookie where
  cookie : NSHTTPCookie
  requested : Option Time
deriving DecidableEq

/-- A cookie has the time recorded that was made from the requested one. -/
inductive CookieEvent where
  | recorded (uniqueID : String) (requested unique : Time)
deriving DecidableEq

/-- The store with the queues between the two threads and the store of WebKit. -/
structure WKHTTPSystemCookieStore where
  ui : List CookieUITask
  operations : List CookieOperation
  cookies : List StoredCookie
  completions : List CookieCompletion
  remainingCookiesToClearCount : Nat → Nat
  nextClear : Nat
  io : List CookieIOTask
  creationTimeManager : CookieCreationTimeManager

def NSHTTPCookie.isSame (cookie other : NSHTTPCookie) : Bool :=
  cookie.name = other.name ∧ cookie.domain = other.domain ∧ cookie.path = other.path

namespace WKHTTPSystemCookieStore

abbrev Outcome := WKHTTPSystemCookieStore × List CookieEvent

def initial (cookies : List NSHTTPCookie) : WKHTTPSystemCookieStore where
  ui := []
  operations := []
  cookies := cookies.map fun cookie => ⟨cookie, none⟩
  completions := []
  remainingCookiesToClearCount := fun _ => 0
  nextClear := 0
  io := []
  creationTimeManager := .initial

/-! ## Calls -/

variable (store : WKHTTPSystemCookieStore)

def setCookieAsync (cookie : NSHTTPCookie) (optionalCreationTime : Option Time) (now : Time) :
    WKHTTPSystemCookieStore :=
  let cookieTime :=
    match optionalCreationTime with
    | some time => if time = Time.null then now else time
    | none => now
  { store with ui := store.ui ++ [.setCookie cookie cookieTime] }

def deleteCookieAsync (cookie : NSHTTPCookie) : WKHTTPSystemCookieStore :=
  { store with ui := store.ui ++ [.deleteCookie cookie] }

def clearStoreAsync : WKHTTPSystemCookieStore :=
  { store with ui := store.ui ++ [.clear] }

/-! ## The store of WebKit -/

def issue : CookieUITask → CookieOperation
  | .setCookie cookie cookieTime => .setCookie cookie cookieTime
  | .deleteCookie cookie => .deleteCookie cookie
  | .clear => .getAllCookies

def others (cookie : NSHTTPCookie) : List StoredCookie :=
  store.cookies.filter fun stored => !cookie.isSame stored.cookie

/-- An operation is executed, and its completion handler is due. -/
def execute : CookieOperation → WKHTTPSystemCookieStore
  | .setCookie cookie cookieTime =>
    { store with
      cookies := store.others cookie ++ [⟨cookie, some cookieTime⟩]
      completions := store.completions ++ [.set cookie cookieTime] }
  | .deleteCookie cookie =>
    { store with
      cookies := store.others cookie
      completions := store.completions ++ [.deleted cookie] }
  | .getAllCookies =>
    { store with
      completions := store.completions ++ [.gotAll (store.cookies.map StoredCookie.cookie)] }
  | .clearCookie clear cookie =>
    { store with
      cookies := store.others cookie
      completions := store.completions ++ [.cleared clear] }

/-! ## Completion handlers -/

def runBlockOnIOThread (task : CookieIOTask) : WKHTTPSystemCookieStore :=
  { store with io := store.io ++ [task] }

def complete : CookieCompletion → Checked WKHTTPSystemCookieStore
  | .set cookie cookieTime =>
    some (store.runBlockOnIOThread (.setCreationTime cookie cookieTime))
  | .deleted cookie => some (store.runBlockOnIOThread (.deleteCreationTime cookie))
  | .gotAll cookies =>
    if cookies.length = 0 then
      some (store.runBlockOnIOThread .clear)
    else
      let clear := store.nextClear
      some { store with
        nextClear := clear + 1
        remainingCookiesToClearCount :=
          Function.update store.remainingCookiesToClearCount clear cookies.length
        operations := store.operations ++ cookies.map (.clearCookie clear) }
  | .cleared clear =>
    if store.remainingCookiesToClearCount clear = 0 then
      none
    else
      let remaining := store.remainingCookiesToClearCount clear - 1
      let counted : WKHTTPSystemCookieStore :=
        { store with
          remainingCookiesToClearCount :=
            Function.update store.remainingCookiesToClearCount clear remaining }
      some (if remaining = 0 then counted.runBlockOnIOThread .clear else counted)

/-! ## The IO thread -/

def performIOTask : CookieIOTask → Checked Outcome
  | .setCreationTime cookie cookieTime => do
      let unique ← store.creationTimeManager.makeUniqueCreationTime cookieTime
      let manager ← store.creationTimeManager.setCreationTime cookie unique
      some ({ store with creationTimeManager := manager },
        [.recorded (getCookieUniqueID cookie) cookieTime unique])
  | .deleteCreationTime cookie => do
      let manager ← store.creationTimeManager.deleteCreationTime cookie
      some ({ store with creationTimeManager := manager }, [])
  | .clear => some ({ store with creationTimeManager := store.creationTimeManager.clear }, [])

/-! ## Steps -/

inductive Input where
  | setCookieAsync (cookie : NSHTTPCookie) (optionalCreationTime : Option Time) (now : Time)
  | deleteCookieAsync (cookie : NSHTTPCookie)
  | clearStoreAsync
  | runUITask
  | executeOperation
  | runCompletion
  | runIOTask

def step : Input → Checked Outcome
  | .setCookieAsync cookie optionalCreationTime now =>
    some (store.setCookieAsync cookie optionalCreationTime now, [])
  | .deleteCookieAsync cookie => some (store.deleteCookieAsync cookie, [])
  | .clearStoreAsync => some (store.clearStoreAsync, [])
  | .runUITask =>
    match store.ui with
    | [] => some (store, [])
    | task :: rest =>
      some ({ store with ui := rest, operations := store.operations ++ [issue task] }, [])
  | .executeOperation =>
    match store.operations with
    | [] => some (store, [])
    | operation :: rest =>
      let taken : WKHTTPSystemCookieStore := { store with operations := rest }
      some (taken.execute operation, [])
  | .runCompletion =>
    match store.completions with
    | [] => some (store, [])
    | completion :: rest =>
      let taken : WKHTTPSystemCookieStore := { store with completions := rest }
      (taken.complete completion).map fun after => (after, [])
  | .runIOTask =>
    match store.io with
    | [] => some (store, [])
    | task :: rest =>
      let taken : WKHTTPSystemCookieStore := { store with io := rest }
      taken.performIOTask task

/-- Nothing is on its way any more. -/
structure Quiescent (store : WKHTTPSystemCookieStore) : Prop where
  ui : store.ui = []
  operations : store.operations = []
  completions : store.completions = []
  io : store.io = []

end WKHTTPSystemCookieStore

end ChromiumIos
