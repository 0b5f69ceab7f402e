import ChromiumIos.Lib.Runs
import ChromiumIos.Navigation.NavigationItem

/-!
# The receiver of shared items

The share extension drops a file for each item into a folder.  The receiver reads the files
on a background sequence, adds the items to the models on the UI thread and deletes the files
on the background sequence again.  It looks for files when the application becomes active,
and as a file presenter it is told of changes meanwhile.
-/

namespace ChromiumIos

open Lib

/-- The dictionary of an item, as far as its values have the right types. -/
structure ShareItemEntry where
  cancel : Option Bool
  url : GURL
  title : String
  date : Option Nat
  type : Option Int
  source : Option String
deriving DecidableEq

/-- A file that was dropped, with the dictionary that its data is unarchived to. -/
structure SharedFile where
  id : Nat
  path : String
  legacy : Bool
  entry : Option ShareItemEntry
deriving DecidableEq

/-- What is asked of the URL of an item. -/
structure ShareDevice where
  isValid : GURL → Bool
  schemeIsHTTPOrHTTPS : GURL → Bool

/-- What `receivedData:withCompletion:` makes of the data of a file. -/
inductive ReceivedItem where
  | invalid
  | cancelled
  | valid (type : Int) (url : GURL) (title : String)
deriving DecidableEq

/-- Tasks of the background sequence. -/
inductive ReceiverTask where
  | createReadingListFolder
  | processExistingFiles
  | handleFile (path : String) (batch : Bool)
  | deleteFile (path : String) (batch : Bool)
deriving DecidableEq

/-- Tasks of the UI thread. -/
inductive ReceiverUITask where
  | readingListFolderCreated
  | entriesReceived (paths : List String)
  | processEntry (id : Nat) (path : String) (batch : Bool) (type : Int) (url : GURL)
      (title : String)
  | endBatchUpdates
deriving DecidableEq

inductive ReceiverEvent where
  | becameActive
  | resignedActive
  | folderCreated
  | postedProcessing
  | handled (id : Nat)
  | read (id : Nat)
  | addEntry (id : Nat) (url : GURL) (title : String)
  | addURL (id : Nat) (title : String) (url : GURL)
  | deleted (path : String)
deriving DecidableEq

/-- The receiver with its queues, the application state, the registrations as a file
presenter, the files, and the changes that it has not been told of yet. -/
structure ShareExtensionItemReceiver where
  isObservingReadingListFolder : Bool
  readingListFolderCreated : Bool
  hasModels : Bool
  hasTaskRunner : Bool
  observesApplication : Bool
  background : List ReceiverTask
  ui : List ReceiverUITask
  active : Bool
  presenters : Nat
  folderExists : Bool
  files : List SharedFile
  nextFile : Nat
  changes : List String
deriving DecidableEq

def kReadingListItem : Int := 0
def kBookmarkItem : Int := 1

variable (device : ShareDevice)

def receivedData : Option ShareItemEntry → ReceivedItem
  | none => .invalid
  | some entry =>
    match entry.cancel with
    | none => .invalid
    | some true => .cancelled
    | some false =>
      match entry.source, entry.date, entry.type with
      | some _, some _, some type =>
        if device.isValid entry.url && device.schemeIsHTTPOrHTTPS entry.url then
          .valid type entry.url entry.title
        else
          .invalid
      | _, _, _ => .invalid

namespace ShareExtensionItemReceiver

abbrev Outcome := ShareExtensionItemReceiver × List ReceiverEvent

/-- `initWithBookmarkModel:readingListModel:`, in the given application state. -/
def initial (active : Bool) : ShareExtensionItemReceiver where
  isObservingReadingListFolder := false
  readingListFolderCreated := false
  hasModels := true
  hasTaskRunner := true
  observesApplication := true
  background := [.createReadingListFolder]
  ui := []
  active := active
  presenters := 0
  folderExists := false
  files := []
  nextFile := 0
  changes := []

variable (receiver : ShareExtensionItemReceiver) (path : String)

def postTask (task : ReceiverTask) : ShareExtensionItemReceiver :=
  { receiver with background := receiver.background ++ [task] }

def postUITask (task : ReceiverUITask) : ShareExtensionItemReceiver :=
  { receiver with ui := receiver.ui ++ [task] }

/-! ## The life of the application -/

def applicationDidBecomeActive : Outcome :=
  if receiver.readingListFolderCreated = false ∨ receiver.isObservingReadingListFolder = true then
    (receiver, [])
  else
    let observing : ShareExtensionItemReceiver :=
      { receiver with
        isObservingReadingListFolder := true
        presenters := receiver.presenters + 1 }
    if observing.hasTaskRunner then
      (observing.postTask .processExistingFiles, [.postedProcessing])
    else
      (observing, [])

def applicationWillResignActive : ShareExtensionItemReceiver :=
  if receiver.isObservingReadingListFolder then
    { receiver with
      isObservingReadingListFolder := false
      presenters := receiver.presenters - 1 }
  else
    receiver

def becomeActive : Outcome :=
  let active : ShareExtensionItemReceiver := { receiver with active := true }
  if active.observesApplication then
    (active.applicationDidBecomeActive.1, .becameActive :: active.applicationDidBecomeActive.2)
  else
    (active, [.becameActive])

def resignActive : Outcome :=
  let told := if receiver.observesApplication then receiver.applicationWillResignActive
    else receiver
  ({ told with active := false }, [.resignedActive])

def shutdown : ShareExtensionItemReceiver :=
  { receiver with
    observesApplication := false
    presenters :=
      if receiver.isObservingReadingListFolder then receiver.presenters - 1
      else receiver.presenters
    hasModels := false
    hasTaskRunner := false }

/-! ## Tasks of the background sequence -/

def createReadingListFolder : ShareExtensionItemReceiver :=
  ({ receiver with folderExists := true } : ShareExtensionItemReceiver).postUITask
    .readingListFolderCreated

def processExistingFiles : ShareExtensionItemReceiver :=
  let oldFiles := receiver.files.filter SharedFile.legacy
  let newFiles := receiver.files.filter fun file => !file.legacy
  let paths := (oldFiles ++ newFiles).map SharedFile.path
  if paths.isEmpty then receiver else receiver.postUITask (.entriesReceived paths)

/-- `deleteFileAtURL:withCompletion:`; the file system may refuse. -/
def deleteFileAtURL (batch : Bool) (deletes : Bool) : Outcome :=
  let deleted : ShareExtensionItemReceiver :=
    if deletes then { receiver with files := receiver.files.filter fun file => file.path ≠ path }
    else receiver
  (if batch then deleted.postUITask .endBatchUpdates else deleted,
    if deletes then [.deleted path] else [])

/-- `handleFileAtURL:withCompletion:`; the coordination of the reading may fail. -/
def handleFileAtURL (device : ShareDevice) (path : String) (batch coordinates deletes : Bool) :
    Outcome :=
  match receiver.files.find? fun file => file.path = path with
  | none => (receiver, [])
  | some file =>
    if coordinates = false then
      (receiver, [.handled file.id])
    else
      match receivedData device file.entry with
      | .invalid | .cancelled =>
        ((receiver.deleteFileAtURL path batch deletes).1,
          .handled file.id :: (receiver.deleteFileAtURL path batch deletes).2)
      | .valid type url title =>
        (receiver.postUITask (.processEntry file.id path batch type url title),
          [.handled file.id, .read file.id])

def performTask (device : ShareDevice) (coordinates deletes : Bool) : ReceiverTask → Outcome
  | .createReadingListFolder => (receiver.createReadingListFolder, [])
  | .processExistingFiles => (receiver.processExistingFiles, [])
  | .handleFile path batch => receiver.handleFileAtURL device path batch coordinates deletes
  | .deleteFile path batch => receiver.deleteFileAtURL path batch deletes

/-! ## Tasks of the UI thread -/

def onReadingListFolderCreated : Outcome :=
  if receiver.active then
    let created : ShareExtensionItemReceiver := { receiver with readingListFolderCreated := true }
    (created.applicationDidBecomeActive.1,
      .folderCreated :: created.applicationDidBecomeActive.2)
  else
    (receiver, [.folderCreated])

def entriesReceived (paths : List String) : ShareExtensionItemReceiver :=
  if receiver.hasTaskRunner then
    { receiver with
      background := receiver.background ++ paths.map fun path => .handleFile path true }
  else
    receiver

def processEntry (id : Nat) (path : String) (batch : Bool) (type : Int) (url : GURL)
    (title : String) : Outcome :=
  if receiver.hasModels = false then
    (receiver, [])
  else
    (if receiver.hasTaskRunner then receiver.postTask (.deleteFile path batch) else receiver,
      if type = kReadingListItem then [.addEntry id url title]
      else if type = kBookmarkItem then [.addURL id title url]
      else [])

def performUITask : ReceiverUITask → Outcome
  | .readingListFolderCreated => receiver.onReadingListFolderCreated
  | .entriesReceived paths => (receiver.entriesReceived paths, [])
  | .processEntry id path batch type url title =>
    receiver.processEntry id path batch type url title
  | .endBatchUpdates => (receiver, [])

/-! ## Steps -/

def presentedSubitemDidChangeAtURL : ShareExtensionItemReceiver :=
  let told : ShareExtensionItemReceiver :=
    { receiver with changes := receiver.changes.erase path }
  if told.hasTaskRunner then told.postTask (.handleFile path false) else told

/-- The share extension drops a file; a file presenter will be told of it. -/
def drop (legacy : Bool) (entry : Option ShareItemEntry) : ShareExtensionItemReceiver :=
  { receiver with
    files := receiver.files ++ [⟨receiver.nextFile, path, legacy, entry⟩]
    nextFile := receiver.nextFile + 1
    changes :=
      if 0 < receiver.presenters ∧ legacy = false then receiver.changes ++ [path]
      else receiver.changes }

inductive Input where
  | becomeActive
  | resignActive
  | shutdown
  | runTask (coordinates deletes : Bool)
  | runUITask
  | change (path : String)
  | drop (path : String) (legacy : Bool) (entry : Option ShareItemEntry)

def step : Input → Checked Outcome
  | .becomeActive => some receiver.becomeActive
  | .resignActive => some receiver.resignActive
  | .shutdown => some (receiver.shutdown, [])
  | .runTask coordinates deletes =>
    match receiver.background with
    | [] => some (receiver, [])
    | task :: rest =>
      let taken : ShareExtensionItemReceiver := { receiver with background := rest }
      some (taken.performTask device coordinates deletes task)
  | .runUITask =>
    match receiver.ui with
    | [] => some (receiver, [])
    | task :: rest =>
      let taken : ShareExtensionItemReceiver := { receiver with ui := rest }
      some (taken.performUITask task)
  | .change path => some (receiver.presentedSubitemDidChangeAtURL path, [])
  | .drop path legacy entry => some (receiver.drop path legacy entry, [])

/-- The application alternates between its states, the receiver is shut down once, a file is
dropped where there is none, and a file presenter is told of changes, also of the same one
several times. -/
def Offered : Input → Prop
  | .becomeActive => receiver.active = false
  | .resignActive => receiver.active = true
  | .shutdown => receiver.hasTaskRunner = true
  | .change path => path ∈ receiver.changes ∨ 0 < receiver.presenters
  | .drop path _ _ => ∀ file ∈ receiver.files, file.path ≠ path
  | .runTask _ _ | .runUITask => True

instance : (input : Input) → Decidable (receiver.Offered input)
  | .becomeActive => inferInstanceAs (Decidable (receiver.active = false))
  | .resignActive => inferInstanceAs (Decidable (receiver.active = true))
  | .shutdown => inferInstanceAs (Decidable (receiver.hasTaskRunner = true))
  | .change path => inferInstanceAs (Decidable (path ∈ receiver.changes ∨ 0 < receiver.presenters))
  | .drop path _ _ => inferInstanceAs (Decidable (∀ file ∈ receiver.files, file.path ≠ path))
  | .runTask _ _ | .runUITask => isTrue trivial

end ShareExtensionItemReceiver

end ChromiumIos
