import ChromiumIos.Lib.Runs
import ChromiumIos.Omaha.ResponseParser

/-!
# Pings of the update server

The service pings the update server every few hours, and after a ping that failed it
waits for longer and longer times.  What it knows of the pings is kept in the user
defaults, which a new process of the application reads again.

Times are microseconds since the null time, which is what defaults that are not there
read as; the conversions to the doubles that are stored are taken to be exact.  A
function that reads the clock several times gets readings of its own, each not before
the one ahead of it.
-/

namespace ChromiumIos

open Lib

def hours (count : Int) : Int := count * 3600000000

def kHoursBetweenRequests : Int := hours 5
def kPostRetryBase : Int := hours 1
def kPostRetryMax : Int := hours 6
def oneSecond : Int := 1000000

/-- The longest wait after a number of failures, of which jitter may take a tenth. -/
def longestBackOff (numberOfTries : Nat) : Int :=
  if numberOfTries = 0 then 0
  else min (kPostRetryBase * 2 ^ (numberOfTries - 1)) kPostRetryMax

structure BackOff where
  delay : Nat → Int
  within : ∀ numberOfTries, 9 * longestBackOff numberOfTries ≤ 10 * delay numberOfTries ∧
    delay numberOfTries ≤ longestBackOff numberOfTries

structure Readings where
  first : Int
  second : Int
  third : Int
  fourth : Int
  first_le : first ≤ second
  second_le : second ≤ third
  third_le : third ≤ fourth

structure OmahaDefaults (Version : Type) where
  nextTriesTime : Int
  currentPingTime : Int
  numberOfTries : Nat
  lastSentTime : Int
  lastSentVersion : Option Version
  hasRetryRequestId : Bool
deriving DecidableEq, Repr

/-- What does not change while the version of the application stays the same. -/
structure OmahaSetup (Version Url : Type) where
  currentVersion : Version
  defaultLastSentVersion : Version
  updateServerIsValid : Bool
  schedule : Bool
  urls : UrlParser Url
  appId : String

/-- The defaults, the service of the running process, and the last reading of the clock.  The
timer is known by the time at which it is due. -/
structure OmahaService (Version : Type) where
  defaults : OmahaDefaults Version
  nextTriesTime : Int
  currentPingTime : Int
  numberOfTries : Nat
  lastSentTime : Int
  lastSentVersion : Version
  sendingInstallEvent : Bool
  started : Bool
  loading : Bool
  timer : Option Int
  clock : Int
deriving DecidableEq, Repr

/-- A ping that is sent, with the header for its age if it has one, and with the time of the
current ping that the service held when it sent it. -/
structure PingRequest where
  time : Int
  isInstallEvent : Bool
  isRetry : Bool
  requestAge : Option Int
  currentPingTime : Int
deriving DecidableEq, Repr

/-- A ping with the time until which the next one waits, the end of a ping that was answered,
and the update that an answer recommends. -/
inductive OmahaOutput (Url : Type) where
  | pinged (request : PingRequest) (waitsUntil : Int)
  | succeeded
  | upgradeRecommended (details : UpgradeRecommendedDetails Url)

inductive OmahaInput where
  | start (readings : Readings) (backOff : BackOff)
  | timerFired (readings : Readings) (backOff : BackOff)
  /-- The answer, if there is one: whether it is XML to its end, and its elements. -/
  | loadComplete (response : Option (Bool × List StartElement)) (readings : Readings)
      (backOff : BackOff)
  | debugInformation
  | restart (readings : Readings)

namespace OmahaService

variable {Version Url : Type} [LinearOrder Version]

def persistStates (service : OmahaService Version) : OmahaService Version :=
  { service with
    defaults := { service.defaults with
      nextTriesTime := service.nextTriesTime
      currentPingTime := service.currentPingTime
      numberOfTries := service.numberOfTries
      lastSentTime := service.lastSentTime
      lastSentVersion := some service.lastSentVersion } }

variable (setup : OmahaSetup Version Url)

/-- A new process reads the defaults; the clock is read at the beginning and once more when the
version has changed. -/
def initializeService (defaults : OmahaDefaults Version) (readings : Readings) :
    OmahaService Version :=
  let now := readings.first
  let read : OmahaService Version := {
    defaults := defaults
    nextTriesTime := defaults.nextTriesTime
    currentPingTime := defaults.currentPingTime
    numberOfTries := defaults.numberOfTries % 256
    lastSentTime := defaults.lastSentTime
    lastSentVersion := defaults.lastSentVersion.getD setup.defaultLastSentVersion
    sendingInstallEvent := false
    started := false
    loading := false
    timer := none
    clock := readings.fourth }
  let sent :=
    if read.lastSentTime > now then { read with lastSentTime := now } else read
  let rescheduled :=
    if sent.nextTriesTime - now > kHoursBetweenRequests then
      { sent with nextTriesTime := sent.lastSentTime + kHoursBetweenRequests }
    else sent
  let fired :=
    if rescheduled.lastSentVersion < setup.currentVersion then
      { rescheduled with nextTriesTime := readings.second - oneSecond, numberOfTries := 0 }
    else rescheduled
  if read.lastSentTime > now ∨ sent.nextTriesTime - now > kHoursBetweenRequests ∨
      rescheduled.lastSentVersion < setup.currentVersion then
    fired.persistStates
  else fired

variable (service : OmahaService Version)

/-- The content says whether an event is sent for a new version, whose id is kept for retries. -/
def getCurrentPingContent : Checked (OmahaService Version) :=
  let sendingInstallEvent : Bool := service.lastSentVersion < setup.currentVersion
  (dcheck (sendingInstallEvent = true ∨ service.defaults.hasRetryRequestId = false)).map fun _ =>
    { service with
      sendingInstallEvent := sendingInstallEvent
      defaults := { service.defaults with
        hasRetryRequestId := service.defaults.hasRetryRequestId || sendingInstallEvent } }

def isNextPingInstallRetry : Bool := service.defaults.hasRetryRequestId

def secondsFrom (start now : Int) : Int := (now - start).tdiv oneSecond

def notifiesServer : Bool := service.numberOfTries ≠ 0 && service.isNextPingInstallRetry

def pingRequest (now : Int) (isInstallEvent : Bool) : PingRequest where
  time := now
  isInstallEvent := isInstallEvent
  isRetry := service.notifiesServer
  requestAge :=
    if service.notifiesServer then some (secondsFrom service.currentPingTime now) else none
  currentPingTime := service.currentPingTime

def sendPing (now : Int) (backOff : BackOff) :
    Checked (OmahaService Version × List (OmahaOutput Url)) :=
  (dcheck (service.loading = false)).bind fun _ =>
    if setup.updateServerIsValid = false then some (service, [])
    else
      let numberOfTries :=
        if service.numberOfTries < 30 then service.numberOfTries + 1 else service.numberOfTries
      let counted := { service with
        numberOfTries := numberOfTries
        nextTriesTime := now + backOff.delay numberOfTries }
      (getCurrentPingContent setup counted.persistStates).map fun loading =>
        ({ loading with loading := true },
          [.pinged (service.pingRequest now loading.sendingInstallEvent) counted.nextTriesTime])

def sendOrScheduleNextPing (now later : Int) (backOff : BackOff) :
    Checked (OmahaService Version × List (OmahaOutput Url)) :=
  if service.nextTriesTime ≤ now then service.sendPing setup later backOff
  else if setup.schedule then some ({ service with timer := some service.nextTriesTime }, [])
  else some (service, [])

/-- What the service keeps of a ping that was answered. -/
def succeed (now later : Int) : OmahaService Version :=
  let nextTriesTime :=
    if service.sendingInstallEvent then now else now + kHoursBetweenRequests
  let answered := { service with
    numberOfTries := 0
    nextTriesTime := nextTriesTime
    currentPingTime := nextTriesTime
    lastSentTime := later
    lastSentVersion := setup.currentVersion
    sendingInstallEvent := false
    defaults := { service.defaults with hasRetryRequestId := false } }
  answered.persistStates

/-- The end of a load; the parser may be stopped by an assertion. -/
def onURLLoadComplete (response : Option (Bool × List StartElement)) (readings : Readings)
    (backOff : BackOff) : Checked (OmahaService Version × List (OmahaOutput Url)) :=
  let ended := { service with loading := false }
  match response with
  | none => ended.sendOrScheduleNextPing setup readings.first readings.second backOff
  | some (wellFormed, elements) =>
    (ResponseParser.parse setup.urls setup.appId elements).bind fun parser =>
      if wellFormed = false ∨ parser.isCorrect = false then
        ended.sendOrScheduleNextPing setup readings.first readings.second backOff
      else
        ((ended.succeed setup readings.first readings.second).sendOrScheduleNextPing setup
          readings.third readings.fourth backOff).map fun (after, emitted) =>
            (after, .succeeded :: emitted ++
              parser.upgradeRecommendedDetails.toList.map .upgradeRecommended)

def step : OmahaInput → Checked (OmahaService Version × List (OmahaOutput Url))
  | .start readings backOff =>
    { service with started := true, clock := readings.fourth }.sendOrScheduleNextPing setup
      readings.first readings.second backOff
  | .timerFired readings backOff =>
    { service with timer := none, clock := readings.fourth }.sendPing setup readings.first
      backOff
  | .loadComplete response readings backOff =>
    { service with clock := readings.fourth }.onURLLoadComplete setup response readings backOff
  | .debugInformation =>
    (service.getCurrentPingContent setup).map fun after => (after, [])
  | .restart readings => some (initializeService setup service.defaults readings, [])

/-- The clock does not go back, the service is started once in each process, and the timer does
not fire before it is due. -/
def Accepts : OmahaInput → Prop
  | .start readings _ => service.started = false ∧ service.clock ≤ readings.first
  | .timerFired readings _ =>
    (∃ due ∈ service.timer, due ≤ readings.first) ∧ service.clock ≤ readings.first
  | .loadComplete _ readings _ => service.loading = true ∧ service.clock ≤ readings.first
  | .debugInformation => True
  | .restart readings => service.clock ≤ readings.first

instance (input : OmahaInput) : Decidable (service.Accepts input) :=
  match input with
  | .start .. => inferInstanceAs (Decidable (_ ∧ _))
  | .timerFired .. => inferInstanceAs (Decidable ((∃ due ∈ service.timer, _) ∧ _))
  | .loadComplete .. => inferInstanceAs (Decidable (_ ∧ _))
  | .debugInformation => inferInstanceAs (Decidable True)
  | .restart .. => inferInstanceAs (Decidable (_ ≤ _))

def run (defaults : OmahaDefaults Version) (launch : Readings) (inputs : List OmahaInput) :
    Checked (OmahaService Version × List (OmahaOutput Url)) :=
  replay? (step setup) Accepts (initializeService setup defaults launch) inputs

end OmahaService

end ChromiumIos
