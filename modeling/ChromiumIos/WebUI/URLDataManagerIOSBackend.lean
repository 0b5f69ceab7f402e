import ChromiumIos.Lib.Runs

/-!
# Data of WebUI pages

A job asks the backend for the data of a URL.  The backend finds the data source by its name,
remembers the request and asks the source on the UI thread; the answer comes back to the IO
thread through the source, which knows the backend as long as it is not replaced.  The job
copies the data into the buffers of its reads, and keeps one buffer when there is no data yet.
-/

namespace ChromiumIos

open Lib

/-- What is looked at of a URL; the path is the part behind the host and its slash. -/
structure ChromeURL where
  isAppSpecific : Bool
  isValid : Bool
  host : String
  scheme : String
  requestPath : String

structure URLDataSource where
  sourceName : String
  shouldReplaceExistingSource : Bool
  shouldServiceRequest : ChromeURL → Bool
  getMimeType : String → String

/-- A job, whether it has a backend, whether its weak pointers are invalid, and whether the
network stack waits for a read of it. -/
structure URLRequestChromeJob where
  data : Option (List UInt8)
  dataOffset : Nat
  pendingBuf : Option Int
  mimeType : String
  source : Option Nat
  hasBackend : Bool
  killed : Bool
  reading : Bool
deriving DecidableEq

inductive DataEvent where
  | requested (requestId job : Nat)
  | startError (job : Nat)
  | headersComplete (job : Nat)
  | answered (requestId : Nat) (bytes : Option (List UInt8))
  | arrived (requestId : Nat)
  | readPending (job : Nat)
  | readReturned (job : Nat) (bytes : List UInt8) (result : Int)
  | readCompleted (job : Nat) (bytes : List UInt8) (result : Int)
  | readFailed (job : Nat)
  | killed (job : Nat)
deriving DecidableEq

inductive DataUITask where
  | getMimeType (source : Nat) (path : String) (job : Nat)
  | callStartRequest (source : Nat) (path : String) (requestId : Nat)
deriving DecidableEq

inductive DataIOTask where
  | mimeTypeAvailable (job source : Nat) (mimeType : String)
  | sendResponse (source requestId : Nat) (bytes : Option (List UInt8))
deriving DecidableEq

/-- The backend with the jobs, the sources it is known to, the queues of the two threads and
the requests that sources have been asked for and not answered. -/
structure URLDataManagerIOSBackend where
  nextRequestId : Nat
  pendingRequests : List (Nat × Nat)
  dataSources : String → Option Nat
  hasBackend : Nat → Bool
  jobs : Nat → URLRequestChromeJob
  ui : List DataUITask
  io : List DataIOTask
  asked : List (Nat × Nat)

/-! ## Jobs -/

variable (number : Nat) (job : URLRequestChromeJob)

namespace URLRequestChromeJob

def initial : URLRequestChromeJob where
  data := none
  dataOffset := 0
  pendingBuf := none
  mimeType := ""
  source := none
  hasBackend := false
  killed := false
  reading := false

/-- `CompleteRead`: the bytes copied and the result; the rest is computed as an `int`. -/
def completeRead (data : List UInt8) (bufSize : Int) : URLRequestChromeJob × List UInt8 × Int :=
  let remaining := ((data.length : Int) - job.dataOffset).bmod (2 ^ 32)
  let bufSize := if bufSize > remaining then remaining else bufSize
  if bufSize > 0 then
    ({ job with dataOffset := job.dataOffset + bufSize.toNat },
      (data.drop job.dataOffset).take bufSize.toNat, bufSize)
  else
    (job, [], bufSize)

def dataAvailable : Option (List UInt8) → URLRequestChromeJob × List DataEvent
  | some bytes =>
    let job := { job with data := some bytes }
    match job.pendingBuf with
    | none => (job, [])
    | some bufSize =>
      let (read, copied, result) := job.completeRead bytes bufSize
      ({ read with pendingBuf := none, reading := false },
        [.readCompleted number copied result])
  | none => ({ job with reading := false }, [.readFailed number])

def readRawData (bufSize : Int) : Checked (URLRequestChromeJob × List DataEvent) :=
  match job.data with
  | none =>
    if job.pendingBuf = none then
      some ({ job with pendingBuf := some bufSize, reading := true }, [.readPending number])
    else
      none
  | some data =>
    let (read, copied, result) := job.completeRead data bufSize
    some (read, [.readReturned number copied result])

def mimeTypeAvailable (source : Nat) (mimeType : String) : URLRequestChromeJob × List DataEvent :=
  let job := { job with mimeType := mimeType }
  let job := if mimeType = "text/html" then { job with source := some source } else job
  (job, [.headersComplete number])

end URLRequestChromeJob

/-! ## The backend -/

namespace URLDataManagerIOSBackend

abbrev Outcome := URLDataManagerIOSBackend × List DataEvent

variable (sources : Nat → URLDataSource)
variable (backend : URLDataManagerIOSBackend) (job : Nat)

def setJob (number : Nat) (job : URLRequestChromeJob) : URLDataManagerIOSBackend :=
  { backend with jobs := Function.update backend.jobs number job }

def addDataSource (source : Nat) : URLDataManagerIOSBackend :=
  let name := (sources source).sourceName
  let add (backend : URLDataManagerIOSBackend) : URLDataManagerIOSBackend :=
    { backend with
      dataSources := Function.update backend.dataSources name (some source)
      hasBackend := Function.update backend.hasBackend source true }
  match backend.dataSources name with
  | none => add backend
  | some existing =>
    if (sources source).shouldReplaceExistingSource then
      add { backend with hasBackend := Function.update backend.hasBackend existing false }
    else
      backend

/-- The backend with its shared source, which has the number 0. -/
def initial : URLDataManagerIOSBackend :=
  let empty : URLDataManagerIOSBackend :=
    { nextRequestId := 0
      pendingRequests := []
      dataSources := fun _ => none
      hasBackend := fun _ => false
      jobs := fun _ => .initial
      ui := []
      io := []
      asked := [] }
  empty.addDataSource sources 0

def getDataSourceFromURL (url : ChromeURL) : Option Nat :=
  match backend.dataSources url.host with
  | some source => some source
  | none => backend.dataSources (url.scheme ++ "://")

/-- `StartRequest`; `none` when the URL fails the assertions of `CheckURLIsValid`. -/
def startRequest (url : ChromeURL) : Checked (URLDataManagerIOSBackend × Option Nat) :=
  if url.isAppSpecific && url.isValid then
    match backend.getDataSourceFromURL url with
    | none => some (backend, none)
    | some source =>
      if (sources source).shouldServiceRequest url then
        let requestId := backend.nextRequestId
        some ({ backend with
            nextRequestId := requestId + 1
            pendingRequests := backend.pendingRequests ++ [(requestId, job)]
            ui := backend.ui ++ [.getMimeType source url.requestPath job,
              .callStartRequest source url.requestPath requestId] }, some requestId)
      else
        some (backend, none)
  else
    none

def start (url : ChromeURL) : Checked Outcome := do
  let known := backend.setJob job { backend.jobs job with hasBackend := true }
  let (after, request) ← known.startRequest sources job url
  match request with
  | none => some (after, [.startError job])
  | some requestId => some (after, [.requested requestId job])

def removeRequest : URLDataManagerIOSBackend :=
  { backend with pendingRequests := backend.pendingRequests.eraseP fun entry => entry.2 = job }

def kill : Outcome :=
  let invalid := backend.setJob job { backend.jobs job with killed := true }
  (if (backend.jobs job).hasBackend then invalid.removeRequest job else invalid, [.killed job])

def read (bufSize : Int) : Checked Outcome := do
  let (after, events) ← (backend.jobs job).readRawData job bufSize
  some (backend.setJob job after, events)

def dataAvailable (backend : URLDataManagerIOSBackend) (requestId : Nat)
    (bytes : Option (List UInt8)) : Outcome :=
  match backend.pendingRequests.find? fun entry => entry.1 = requestId with
  | none => (backend, [])
  | some (_, job) =>
    let erased : URLDataManagerIOSBackend :=
      { backend with
        pendingRequests := backend.pendingRequests.eraseP fun entry => entry.1 = requestId }
    let (after, events) := (erased.jobs job).dataAvailable job bytes
    (erased.setJob job after, events)

def performUITask : DataUITask → URLDataManagerIOSBackend
  | .getMimeType source path job =>
    { backend with
      io := backend.io ++ [.mimeTypeAvailable job source ((sources source).getMimeType path)] }
  | .callStartRequest source _ requestId =>
    { backend with asked := backend.asked ++ [(source, requestId)] }

/-- Tasks of the IO thread; a weak pointer to a killed job is null. -/
def performIOTask : DataIOTask → Outcome
  | .mimeTypeAvailable job source mimeType =>
    if (backend.jobs job).killed then
      (backend, [])
    else
      let (after, events) := (backend.jobs job).mimeTypeAvailable job source mimeType
      (backend.setJob job after, events)
  | .sendResponse source requestId bytes =>
    if backend.hasBackend source then
      ((backend.dataAvailable requestId bytes).1,
        .arrived requestId :: (backend.dataAvailable requestId bytes).2)
    else
      (backend, [.arrived requestId])

inductive Input where
  | start (job : Nat) (url : ChromeURL)
  | read (job : Nat) (bufSize : Int)
  | kill (job : Nat)
  | addDataSource (source : Nat)
  | runUITask
  | runIOTask
  | answer (source requestId : Nat) (bytes : Option (List UInt8))

def step : Input → Checked Outcome
  | .start job url => backend.start sources job url
  | .read job bufSize => backend.read job bufSize
  | .kill job => some (backend.kill job)
  | .addDataSource source => some (backend.addDataSource sources source, [])
  | .runUITask =>
    match backend.ui with
    | [] => some (backend, [])
    | task :: rest =>
      let taken : URLDataManagerIOSBackend := { backend with ui := rest }
      some (taken.performUITask sources task, [])
  | .runIOTask =>
    match backend.io with
    | [] => some (backend, [])
    | task :: rest =>
      let taken : URLDataManagerIOSBackend := { backend with io := rest }
      some (taken.performIOTask task)
  | .answer source requestId bytes =>
    some ({ backend with
      asked := backend.asked.erase (source, requestId)
      io := backend.io ++ [.sendResponse source requestId bytes] },
      [.answered requestId bytes])

/-- A job is started once, its reads follow each other, and a request is answered once. -/
def Offered : Input → Prop
  | .start job _ => (backend.jobs job).hasBackend = false ∧ (backend.jobs job).killed = false
  | .read job _ => (backend.jobs job).hasBackend = true ∧ (backend.jobs job).killed = false ∧
      (backend.jobs job).reading = false
  | .answer source requestId _ => (source, requestId) ∈ backend.asked
  | .kill _ | .addDataSource _ | .runUITask | .runIOTask => True

instance : (input : Input) → Decidable (backend.Offered input)
  | .start _ _ => inferInstanceAs (Decidable (_ ∧ _))
  | .read _ _ => inferInstanceAs (Decidable (_ ∧ _ ∧ _))
  | .answer _ _ _ => inferInstanceAs (Decidable (_ ∈ _))
  | .kill _ | .addDataSource _ | .runUITask | .runIOTask => isTrue trivial

end URLDataManagerIOSBackend

end ChromiumIos
