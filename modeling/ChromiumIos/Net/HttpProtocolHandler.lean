import ChromiumIos.Net.ChunkedDataStreamUploader

/-!
# The protocol handler between a URL request and its client

The core of the protocol handler starts a request of the network stack and
passes what it receives on to a client.  Redirects, failures and the end of the
data each end the request; so does a cancellation.  The body of the request may
come from a stream, which the core listens to until the stream or the request
ends.

Events come from the network request while it exists, from the stream while the
core is its delegate, from the uploader of a chunked body while it exists, and
from the tracker and the user at any time.  Each read of the network request
returns at once or stays pending; the results that come at once are given with
the event that starts the reading.
-/

namespace ChromiumIos

open Lib

/-! ## Error codes -/

def errAborted : Int := -3
def errUnexpected : Int := -9
def errBlockedByClient : Int := -20
def errNetworkChanged : Int := -21
def errConnectionReset : Int := -101
def errSslProtocolError : Int := -107
def errInvalidURL : Int := -300

def nsURLErrorUnknown : Int := -1
def nsURLErrorCancelled : Int := -999
def nsURLErrorBadURL : Int := -1000
def nsURLErrorCannotConnectToHost : Int := -1004
def nsURLErrorNetworkConnectionLost : Int := -1005
def nsURLErrorClientCertificateRequired : Int := -1206

def iosErrorCode (osError : Int) : Int :=
  if osError = errSslProtocolError then nsURLErrorClientCertificateRequired
  else if osError = errConnectionReset ∨ osError = errNetworkChanged then
    nsURLErrorNetworkConnectionLost
  else if osError = errUnexpected then nsURLErrorUnknown
  else nsURLErrorCannotConnectToHost

/-! ## Requests and callbacks -/

structure NSRequest where
  url : String
  httpMethod : String
  httpBody : Option Bytes
  httpBodyStream : Bool
  headers : List (String × String)
deriving DecidableEq, Repr

namespace NSRequest

def stripPostSpecificHeaders (request : NSRequest) : NSRequest :=
  { request with
    headers := request.headers.filter fun header =>
      header.1 ∉ ["Content-Length", "Content-Type", "Origin"] }

/-- The request that the client should make for a redirect. -/
def redirected (request : NSRequest) (newUrl : String) (httpStatusCode : Int) : NSRequest :=
  let request := { request with url := newUrl }
  let wasPost := request.httpMethod = "POST"
  if (httpStatusCode = 303 ∧ request.httpMethod ≠ "HEAD") ∨
      ((httpStatusCode = 301 ∨ httpStatusCode = 302) ∧ wasPost) then
    let request := { request with httpMethod := "GET", httpBody := none, httpBodyStream := false }
    if wasPost then request.stripPostSpecificHeaders else request
  else
    request

end NSRequest

inductive ClientCallback where
  | didCreateNativeRequest
  | didReceiveAuthChallenge
  | wasRedirectedToRequest (request : NSRequest)
  | didReceiveResponse
  | didLoadData (length : Nat)
  | didFinishLoading
  | didFail (nsErrorCode netErrorCode : Int)
deriving DecidableEq, Repr

/-- What happens between the core and its client, in order. -/
inductive ClientEvent where
  | callback (callback : ClientCallback)
  | cancel
deriving DecidableEq, Repr

inductive StreamRead where
  | unavailable
  | result (bytesRead : Int)
deriving DecidableEq, Repr

inductive StreamEvent where
  | errorOccurred
  | endEncountered
  | hasBytesAvailable (length streamErrorCode : Int) (uploads : Option StreamRead)
  | other
deriving DecidableEq, Repr

/-! ## The core -/

structure HttpProtocolHandlerCore where
  client : Bool
  request : Option NSRequest
  netRequest : Bool
  streamDelegate : Bool
  pendingStream : Bool
  chunkedUploader : Bool
  postDataReaders : List Int
  readBufferSize : Nat
  tracker : Bool
  reading : Bool
deriving DecidableEq, Repr

namespace HttpProtocolHandlerCore

abbrev Reaction := Checked (HttpProtocolHandlerCore × List ClientEvent)

def kIOBufferMinSize : Nat := 64 * 1024

def kIOBufferMaxSize : Nat := 16 * kIOBufferMinSize

variable (core : HttpProtocolHandlerCore)

def allocateReadBuffer (lastReadDataSize : Nat) : HttpProtocolHandlerCore :=
  { core with readBufferSize :=
      if lastReadDataSize = core.readBufferSize then
        Nat.min (core.readBufferSize * 2) kIOBufferMaxSize
      else if lastReadDataSize ≤ core.readBufferSize / 2 then
        Nat.max (core.readBufferSize / 2) kIOBufferMinSize
      else
        core.readBufferSize }

def initWithRequest (request : NSRequest) : HttpProtocolHandlerCore :=
  allocateReadBuffer
    { client := false
      request := some request
      netRequest := false
      streamDelegate := false
      pendingStream := false
      chunkedUploader := false
      postDataReaders := []
      readBufferSize := kIOBufferMinSize
      tracker := false
      reading := false } 0

def bodyStream : Bool :=
  core.request.any (·.httpBodyStream)

def stopListeningStream (stream : Bool) : Checked HttpProtocolHandlerCore := do
  dcheck (stream = true)
  dcheck (core.streamDelegate = true)
  return { core with streamDelegate := false, pendingStream := false }

/-- Deletes the network request, and with it the uploader it owns. -/
def stopNetRequest : Checked HttpProtocolHandlerCore := do
  dcheck (core.netRequest = true)
  let core := { core with netRequest := false, chunkedUploader := false, reading := false }
  if core.streamDelegate then
    core.stopListeningStream core.bodyStream
  else
    return core

def stopRequestWithError (nsErrorCode netErrorCode : Int) : Reaction := do
  dcheck (core.netRequest = true)
  let after ← core.stopNetRequest
  return (after, [.callback (.didFail nsErrorCode netErrorCode)])

/-! ## Reading the response -/

/-- The loop of `OnReadCompleted`: every result that is positive is data for the client, and
the next read follows.  Returns the last result. -/
def readLoop (core : HttpProtocolHandlerCore) (bytesRead : Int) :
    List Int → HttpProtocolHandlerCore × List ClientEvent × Int
  | [] =>
    if 0 < bytesRead then
      (core.allocateReadBuffer bytesRead.toNat, [.callback (.didLoadData bytesRead.toNat)],
        errIoPending)
    else
      (core, [], bytesRead)
  | next :: rest =>
    if 0 < bytesRead then
      let (after, events, last) :=
        (core.allocateReadBuffer bytesRead.toNat).readLoop next rest
      (after, .callback (.didLoadData bytesRead.toNat) :: events, last)
    else
      (core, [], bytesRead)

/-- What follows the loop, by its last result. -/
def finishReading (bytesRead : Int) : Reaction := do
  if bytesRead = ok then
    return (← core.stopNetRequest, [.callback .didFinishLoading])
  else if bytesRead ≠ errIoPending then
    core.stopRequestWithError (iosErrorCode bytesRead) bytesRead
  else
    return ({ core with reading := true }, [])

def onReadCompleted (bytesRead : Int) (reads : List Int) : Reaction := do
  dcheck (bytesRead ≠ errIoPending)
  if !core.netRequest then
    return (core, [])
  let (core, data, last) := { core with reading := false }.readLoop bytesRead reads
  let (after, events) ← core.finishReading last
  return (after, data ++ events)

/-- The result of the first read, and the results of the reads that follow it. -/
def startReading (reads : List Int) : Reaction := do
  if !core.netRequest then
    return (core, [])
  let (after, events) ←
    match reads with
    | [] => pure ({ core with reading := true }, [])
    | bytesRead :: rest =>
      if bytesRead = errIoPending then
        pure ({ core with reading := true }, [])
      else if 0 ≤ bytesRead then
        core.onReadCompleted bytesRead rest
      else
        core.stopRequestWithError (iosErrorCode bytesRead) bytesRead
  return (after, .callback .didReceiveResponse :: events)

/-! ## Events of the network request and of the tracker -/

def onReceivedRedirect (newUrl : String) (isValid : Bool) (httpStatusCode : Int) : Reaction := do
  let request ← core.request
  if !isValid then
    core.stopRequestWithError nsURLErrorBadURL errInvalidURL
  else
    let core ←
      if core.streamDelegate then core.stopListeningStream core.bodyStream else pure core
    let after ← { core with request := none }.stopNetRequest
    return (after,
      [.callback (.wasRedirectedToRequest (request.redirected newUrl httpStatusCode))])

def onAuthRequired : Reaction :=
  some (core, if core.tracker then [.callback .didReceiveAuthChallenge] else [])

def onCertificateRequested : Reaction :=
  core.stopRequestWithError nsURLErrorClientCertificateRequired errSslProtocolError

def cancelAfterSSLError : Reaction :=
  if core.netRequest then
    core.stopRequestWithError nsURLErrorCancelled errBlockedByClient
  else
    some (core, [])

/-- Continuing tells the network request only. -/
def sslErrorCallback (carryOn : Bool) : Reaction :=
  if carryOn then some (core, []) else core.cancelAfterSSLError

def hostStateCallback (carryOn : Bool) (reads : List Int) : Reaction :=
  if carryOn then core.startReading reads else core.cancelAfterSSLError

def onSSLCertificateError (fatal minorError : Bool) : Reaction :=
  if fatal then core.cancelAfterSSLError
  else if !core.tracker then core.sslErrorCallback minorError
  else some (core, [])

def onResponseStarted (netError : Int) (certStatusError : Bool) (reads : List Int) : Reaction := do
  dcheck (netError ≠ errIoPending)
  if !core.netRequest then
    return (core, [])
  if netError ≠ ok then
    core.stopRequestWithError (iosErrorCode netError) netError
  else if core.tracker && certStatusError then
    return (core, [])
  else
    core.startReading reads

/-! ## Events of the body stream -/

/-- Reads the stream for the uploader; also returns what the uploader is given. -/
def onRead (read : StreamRead) : Checked (Int × HttpProtocolHandlerCore × List ClientEvent) := do
  if core.pendingStream then
    match read with
    | .unavailable => return (errIoPending, core, [])
    | .result bytesRead =>
      if bytesRead < 0 then
        let core ← core.stopListeningStream true
        return (errUnexpected, ← core.stopRequestWithError nsURLErrorUnknown errUnexpected)
      else
        return (bytesRead, core, [])
  else
    return (0, core, [])

def handleStreamEvent (event : StreamEvent) : Reaction := do
  dcheck (core.streamDelegate = true)
  match event with
  | .errorOccurred =>
    let core ← core.stopListeningStream true
    core.stopRequestWithError nsURLErrorUnknown errUnexpected
  | .endEncountered =>
    let core ← core.stopListeningStream true
    if core.chunkedUploader then
      return (core, [])
    dcheck (core.netRequest = true)
    return ({ core with postDataReaders := [] }, [])
  | .hasBytesAvailable length streamErrorCode uploads =>
    if core.chunkedUploader then
      let core := { core with pendingStream := true }
      match uploads with
      | none => return (core, [])
      | some read => return (← core.onRead read).2
    else if 0 < length then
      return ({ core with postDataReaders := core.postDataReaders ++ [length] }, [])
    else if length < 0 then
      core.stopRequestWithError streamErrorCode errFailed
    else
      return (core, [])
  | .other => return (core, [])

/-! ## Start and cancel -/

structure StartConditions where
  validTracker : Bool
  tracker : Bool
  isValid : Bool
  hasContentLength : Bool
deriving DecidableEq, Repr

def start (conditions : StartConditions) : Reaction := do
  dcheck (core.client = false)
  let core := { core with client := true, tracker := conditions.tracker }
  if !conditions.validTracker then
    return (core, [.callback (.didFail nsURLErrorCancelled errAborted)])
  if !conditions.isValid then
    return (core, [.callback (.didFail nsURLErrorBadURL errInvalidURL)])
  let core := { core with netRequest := true }
  let core :=
    if core.bodyStream then
      { core with streamDelegate := true, chunkedUploader := !conditions.hasContentLength }
    else
      core
  return (core, [.callback .didCreateNativeRequest])

def cancel (core : HttpProtocolHandlerCore) : Reaction := do
  if !core.netRequest then
    return (core, [])
  return (← core.stopNetRequest, [])

/-! ## All events -/

inductive Input where
  | start (conditions : StartConditions)
  | cancel
  | onReceivedRedirect (newUrl : String) (isValid : Bool) (httpStatusCode : Int)
  | onAuthRequired
  | onCertificateRequested
  | onSSLCertificateError (fatal minorError : Bool)
  | onResponseStarted (netError : Int) (certStatusError : Bool) (reads : List Int)
  | onReadCompleted (bytesRead : Int) (reads : List Int)
  | handleStreamEvent (event : StreamEvent)
  | onRead (read : StreamRead)
  | sslErrorCallback (carryOn : Bool)
  | hostStateCallback (carryOn : Bool) (reads : List Int)
  | completeAuthentication (authOk : Bool)
  | trackerDestroyed
deriving DecidableEq, Repr

def step : Input → Reaction
  | .start conditions => core.start conditions
  | .cancel => do
    let (after, events) ← core.cancel
    return (after, .cancel :: events)
  | .onReceivedRedirect newUrl isValid httpStatusCode =>
    core.onReceivedRedirect newUrl isValid httpStatusCode
  | .onAuthRequired => core.onAuthRequired
  | .onCertificateRequested => core.onCertificateRequested
  | .onSSLCertificateError fatal minorError => core.onSSLCertificateError fatal minorError
  | .onResponseStarted netError certStatusError reads =>
    core.onResponseStarted netError certStatusError reads
  | .onReadCompleted bytesRead reads => core.onReadCompleted bytesRead reads
  | .handleStreamEvent event => core.handleStreamEvent event
  | .onRead read => (core.onRead read).map (·.2)
  | .sslErrorCallback carryOn => core.sslErrorCallback carryOn
  | .hostStateCallback carryOn reads => core.hostStateCallback carryOn reads
  | .completeAuthentication _ => some (core, [])
  | .trackerDestroyed => some ({ core with tracker := false }, [])

/-- The core is started once and first.  A network request calls its delegate only while it
exists, and reports that a read is completed only when the read was pending; a stream calls its
delegate while it has one, and the uploader reads while it exists. -/
def Accepts : Input → Prop
  | .start _ => core.client = false
  | .onReceivedRedirect _ _ _ | .onAuthRequired | .onCertificateRequested
  | .onSSLCertificateError _ _ => core.netRequest = true
  | .onResponseStarted netError _ _ => core.client = true ∧ netError ≠ errIoPending
  | .onReadCompleted bytesRead _ =>
    core.client = true ∧ bytesRead ≠ errIoPending ∧
      (core.netRequest = true → core.reading = true)
  | .handleStreamEvent _ => core.streamDelegate = true
  | .onRead _ => core.chunkedUploader = true
  | .cancel | .sslErrorCallback _ | .hostStateCallback _ _ | .completeAuthentication _
  | .trackerDestroyed => core.client = true

instance : (input : Input) → Decidable (core.Accepts input)
  | .start _ => inferInstanceAs (Decidable (core.client = false))
  | .onReceivedRedirect _ _ _ | .onAuthRequired | .onCertificateRequested
  | .onSSLCertificateError _ _ => inferInstanceAs (Decidable (core.netRequest = true))
  | .onResponseStarted _ _ _ => inferInstanceAs (Decidable (core.client = true ∧ _ ≠ _))
  | .onReadCompleted _ _ =>
    inferInstanceAs (Decidable (core.client = true ∧ _ ≠ _ ∧ (_ → core.reading = true)))
  | .handleStreamEvent _ => inferInstanceAs (Decidable (core.streamDelegate = true))
  | .onRead _ => inferInstanceAs (Decidable (core.chunkedUploader = true))
  | .cancel | .sslErrorCallback _ | .hostStateCallback _ _ | .completeAuthentication _
  | .trackerDestroyed => inferInstanceAs (Decidable (core.client = true))

end HttpProtocolHandlerCore

end ChromiumIos
