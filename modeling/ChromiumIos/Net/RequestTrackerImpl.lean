import ChromiumIos.Net.SSLStatusUpdater

/-!
# The tracker of the requests of a page

The tracker keeps counts for the requests that it is told of, and a map from the requests to
their counts.  A request that waits for a decision about a certificate hands in a callback, which
is looked up through this map and answered from the policies for hosts.

Requests and counts are reached through pointers: a request is known by its address, which may be
that of an earlier request that has been stopped, and counts by a number that is not used again.
`NOTREACHED` is taken as in a build without assertions.
-/

namespace ChromiumIos

open Lib

/-! ## Policies for certificates -/

abbrev SHA256HashValue := BitVec 256

inductive Judgment where
  | unknown
  | allowed
  | denied
deriving DecidableEq

structure CertPolicy where
  allowed : SHA256HashValue → Option CertStatus

namespace CertPolicy

def check (policy : CertPolicy) (cert : SHA256HashValue) (error : CertStatus) : Judgment :=
  match policy.allowed cert with
  | some saved =>
    if saved &&& error ≠ 0 ∧ ~~~(saved &&& error) ^^^ ~~~error = 0 then .allowed else .unknown
  | none => .unknown

def allow (policy : CertPolicy) (cert : SHA256HashValue) (error : CertStatus) : CertPolicy :=
  ⟨Function.update policy.allowed cert (some error)⟩

/-- The judgment is never a denial. -/
theorem check_ne_denied (policy : CertPolicy) (cert : SHA256HashValue) (error : CertStatus) :
    policy.check cert error ≠ .denied := by
  grind [check]

end CertPolicy

structure CertificatePolicyCache where
  certPolicyForHost : String → CertPolicy

variable (cache : CertificatePolicyCache) (cert : SHA256HashValue)

namespace CertificatePolicyCache

def empty : CertificatePolicyCache := ⟨fun _ => ⟨fun _ => none⟩⟩

def allowCertForHost (host : String) (error : CertStatus) : CertificatePolicyCache :=
  ⟨Function.update cache.certPolicyForHost host ((cache.certPolicyForHost host).allow cert error)⟩

def queryPolicy (host : String) (error : CertStatus) : Judgment :=
  (cache.certPolicyForHost host).check cert error

end CertificatePolicyCache

/-! ## Requests -/

/-- The certificate, by its fingerprint, and its errors. -/
structure SSLInfo where
  cert : SHA256HashValue
  certStatus : CertStatus
deriving DecidableEq

/-- A request at its address; its SSL information may be invalid. -/
structure URLRequest where
  address : Nat
  originalURL : GURL
  url : GURL
  siteForCookies : GURL
  sslInfo : Option SSLInfo
deriving DecidableEq

/-- A callback that was handed in is known by its number. -/
inductive SSLCallback where
  | null
  | doNothing
  | handed (callback : Nat)
deriving DecidableEq

inductive TrackerEvent where
  | handedIn (callback : Nat) (allowed : Bool)
  | ran (callback : Nat) (shouldContinue : Bool)
deriving DecidableEq

def SSLCallback.run : SSLCallback → Bool → Checked (List TrackerEvent)
  | .null, _ => none
  | .doNothing, _ => some []
  | .handed callback, shouldContinue => some [.ran callback shouldContinue]

inductive CertNetError where
  | noRevocationMechanism
  | unableToCheckRevocation
  | containsErrors
  | revoked
  | invalid
  | weakServerEphemeralDHKey
  | pinnedKeyNotInCertChain
  | commonNameInvalid
  | dateInvalid
  | authorityInvalid
  | weakSignatureAlgorithm
  | weakKey
  | nameConstraintViolation
  | validityTooLong
  | other (code : Int)
deriving DecidableEq

/-- How URLs and the errors of certificates are read. -/
structure TrackerEnvironment where
  urlByRemovingRef : GURL → GURL
  isValid : GURL → Bool
  schemeIsCryptographic : GURL → Bool
  schemeIsFile : GURL → Bool
  host : GURL → String
  getOrigin : GURL → GURL
  mapCertStatusToNetError : CertStatus → CertNetError

structure TrackerCounts where
  number : Nat
  url : GURL
  siteForCookiesOrigin : GURL
  request : Nat
  sslInfo : Option SSLInfo
  sslJudgment : Judgment
  sslCallback : SSLCallback
  done : Bool
  isSubrequest : Bool
deriving DecidableEq

abbrev CountsByRequest := Nat → Option Nat

structure RequestTrackerImpl where
  counts : List TrackerCounts
  nextNumber : Nat
  countsByRequest : CountsByRequest
  newEstimateRound : Bool
  hasMixedContent : Bool
  pageURL : GURL
  policyCache : CertificatePolicyCache
  isClosing : Bool

/-- Counts after their callback has been dealt with, the map and what was run. -/
abbrev Evaluated := TrackerCounts × CountsByRequest × List TrackerEvent

namespace TrackerCounts

variable (env : TrackerEnvironment)

def make (number : Nat) (trackedURL : GURL) (trackedRequest : URLRequest) : TrackerCounts where
  number := number
  url := trackedURL
  siteForCookiesOrigin := env.getOrigin trackedRequest.siteForCookies
  request := trackedRequest.address
  sslInfo := none
  sslJudgment := .allowed
  sslCallback := .null
  done := false
  isSubrequest := env.isValid trackedRequest.siteForCookies &&
    trackedRequest.url != trackedRequest.siteForCookies

def cancelRequest (counts : TrackerCounts) (byRequest : CountsByRequest) : Checked Evaluated := do
  let events ← counts.sslCallback.run false
  some ({ counts with done := true, sslCallback := .doNothing },
    Function.update byRequest counts.request none, events)

/-- The judgment of the policy, unless the error decides. -/
def judge (cache : CertificatePolicyCache) (host : String) (sslInfo : SSLInfo) : Judgment :=
  let judgment := cache.queryPolicy sslInfo.cert host sslInfo.certStatus
  if judgment = .allowed then
    judgment
  else
    match env.mapCertStatusToNetError sslInfo.certStatus with
    | .noRevocationMechanism | .unableToCheckRevocation => .allowed
    | .containsErrors | .revoked | .invalid | .weakServerEphemeralDHKey
    | .pinnedKeyNotInCertChain => .denied
    | .commonNameInvalid | .dateInvalid | .authorityInvalid | .weakSignatureAlgorithm
    | .weakKey | .nameConstraintViolation | .validityTooLong => judgment
    | .other _ => .denied

def evaluateSSLCallback (cache : CertificatePolicyCache) (counts : TrackerCounts)
    (byRequest : CountsByRequest) : Checked Evaluated :=
  match counts.sslInfo with
  | none => some (counts, byRequest, [])
  | some sslInfo =>
    let judgment := judge env cache (env.host counts.url) sslInfo
    let judged := { counts with sslJudgment := judgment }
    match judgment with
    | .unknown | .denied => judged.cancelRequest byRequest
    | .allowed => do
        let events ← judged.sslCallback.run true
        some ({ judged with sslCallback := .doNothing }, byRequest, events)

def evaluateAll (cache : CertificatePolicyCache) : List TrackerCounts → CountsByRequest →
    Checked (List TrackerCounts × CountsByRequest × List TrackerEvent)
  | [], byRequest => some ([], byRequest, [])
  | counts :: rest, byRequest => do
      let (counts, byRequest, events) ←
        if counts.sslJudgment = .unknown then
          counts.evaluateSSLCallback env cache byRequest
        else
          some (counts, byRequest, [])
      let (rest, byRequest, more) ← evaluateAll cache rest byRequest
      some (counts :: rest, byRequest, events ++ more)

/-- The counts up to a position are dropped, and what is left of their requests cancelled. -/
def trim (splitPosition : Option Nat) : List TrackerCounts → CountsByRequest →
    Checked (List TrackerCounts × CountsByRequest × List TrackerEvent)
  | [], byRequest => some ([], byRequest, [])
  | counts :: rest, byRequest =>
    if splitPosition = some counts.number then
      some (counts :: rest, byRequest, [])
    else if counts.done then
      trim splitPosition rest byRequest
    else do
      let (byRequest, events) ←
        if counts.sslJudgment = .unknown then
          (counts.cancelRequest byRequest).map fun cancelled => cancelled.2
        else
          some (byRequest, [])
      let (rest, byRequest, more) ←
        trim splitPosition rest (Function.update byRequest counts.request none)
      some (rest, byRequest, events ++ more)

end TrackerCounts

namespace RequestTrackerImpl

variable (env : TrackerEnvironment)

abbrev Outcome := RequestTrackerImpl × List TrackerEvent

def initial (pageURL : GURL) (policyCache : CertificatePolicyCache) : RequestTrackerImpl where
  counts := []
  nextNumber := 0
  countsByRequest := fun _ => none
  newEstimateRound := true
  hasMixedContent := false
  pageURL := pageURL
  policyCache := policyCache
  isClosing := false

variable (tracker : RequestTrackerImpl) (request : URLRequest)

def countsAt (number : Nat) : Checked TrackerCounts :=
  tracker.counts.find? fun counts => counts.number = number

def setCounts (after : TrackerCounts) : RequestTrackerImpl :=
  { tracker with
    counts := tracker.counts.map fun counts =>
      if counts.number = after.number then after else counts }

def startRequest : Checked RequestTrackerImpl := do
  dcheck (tracker.countsByRequest request.address = none)
  dcheck (env.schemeIsFile request.url = false)
  let byRequest := if tracker.newEstimateRound then fun _ => none else tracker.countsByRequest
  let url := request.originalURL
  let counts := TrackerCounts.make env tracker.nextNumber
    (env.urlByRemovingRef url) request
  some { tracker with
    counts := tracker.counts ++ [counts]
    nextNumber := tracker.nextNumber + 1
    countsByRequest := Function.update byRequest request.address (some counts.number)
    newEstimateRound := false
    hasMixedContent := tracker.hasMixedContent ||
      (env.schemeIsCryptographic tracker.pageURL &&
        !env.schemeIsCryptographic url) }

def stopRedirectedRequest : Checked RequestTrackerImpl :=
  match tracker.countsByRequest request.address with
  | none => some tracker
  | some number => do
      let counts ← tracker.countsAt number
      dcheck (counts.done = false)
      some { tracker.setCounts { counts with
          sslInfo := if request.sslInfo.isSome then request.sslInfo else counts.sslInfo
          done := true } with
        countsByRequest := Function.update tracker.countsByRequest request.address none }

def stopRequest : Checked RequestTrackerImpl :=
  match tracker.countsByRequest request.address with
  | none => some tracker
  | some _ => tracker.stopRedirectedRequest request

def reevaluateCallbacksForAllCounts : Checked Outcome :=
  if tracker.isClosing then
    some (tracker, [])
  else do
    let (counts, byRequest, events) ← TrackerCounts.evaluateAll env tracker.policyCache
      tracker.counts tracker.countsByRequest
    some ({ tracker with counts := counts, countsByRequest := byRequest }, events)

def onSSLCertificateError (sslInfo : Option SSLInfo) (recoverable : Bool)
    (shouldContinue : SSLCallback) : Checked Outcome := do
  dcheck (sslInfo.isSome = true)
  match tracker.countsByRequest request.address with
  | none => some (tracker, [])
  | some number =>
    let counts ← tracker.countsAt number
    dcheck (counts.done = false)
    (tracker.setCounts { counts with
      sslInfo := sslInfo
      sslCallback := shouldContinue
      sslJudgment := if recoverable then .unknown else .denied }).reevaluateCallbacksForAllCounts
        env

def captureCertificatePolicyCache (shouldContinue : SSLCallback) : Checked Outcome := do
  let sslInfo ← request.sslInfo
  let judgment :=
    tracker.policyCache.queryPolicy sslInfo.cert (env.host request.url) sslInfo.certStatus
  if judgment = .unknown then
    tracker.onSSLCertificateError env request sslInfo true shouldContinue
  else
    dcheck (judgment = .allowed)
    (shouldContinue.run true).map fun events => (tracker, events)

/-! ## A new page -/

def countsBefore (splitPosition : Option Nat) : List TrackerCounts :=
  tracker.counts.takeWhile fun counts => splitPosition ≠ some counts.number

/-- The last counts of the URL, or those of a manifest of a secure page. -/
def splitPosition (url : GURL) : Option TrackerCounts :=
  match tracker.counts.reverse.find? fun counts => counts.url = url with
  | some counts => some counts
  | none =>
    if env.schemeIsCryptographic url then
      tracker.counts.getLast?.filter fun back =>
        env.schemeIsCryptographic back.url &&
          (env.getOrigin back.url = env.getOrigin url && !back.isSubrequest)
    else
      none

def newURLHasMixedContent (url : GURL) : Bool :=
  (tracker.counts.any fun counts => counts.url = url) &&
    (tracker.counts.reverse.takeWhile fun counts => counts.url ≠ url).any fun counts =>
      env.schemeIsCryptographic url && !env.schemeIsCryptographic counts.url &&
        counts.siteForCookiesOrigin = env.getOrigin url

def recomputeMixedContent (splitPosition : Option Nat) : RequestTrackerImpl :=
  if env.schemeIsCryptographic tracker.pageURL && tracker.hasMixedContent then
    { tracker with
      hasMixedContent := (tracker.countsBefore splitPosition).any fun counts =>
        !env.schemeIsCryptographic counts.url &&
          env.getOrigin tracker.pageURL = counts.siteForCookiesOrigin }
  else
    tracker

def trimToURL (fullURL : GURL) : Checked Outcome := do
  let url := env.urlByRemovingRef fullURL
  let splitPosition := (tracker.splitPosition env url).map TrackerCounts.number
  let recomputed := tracker.recomputeMixedContent env splitPosition
  let (counts, byRequest, events) ←
    TrackerCounts.trim splitPosition recomputed.counts recomputed.countsByRequest
  let trimmed : RequestTrackerImpl :=
    { recomputed with
      counts := counts
      countsByRequest := byRequest
      hasMixedContent := tracker.newURLHasMixedContent env url
      pageURL := url
      newEstimateRound := true }
  let (after, more) ← trimmed.reevaluateCallbacksForAllCounts env
  some (after, events ++ more)

end RequestTrackerImpl

end ChromiumIos
