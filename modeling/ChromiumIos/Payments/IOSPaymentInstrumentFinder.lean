import ChromiumIos.Lib.Runs
import ChromiumIos.Navigation.NavigationItem

/-!
# The finder of payment instruments

A search downloads the manifest of each supported payment method, then the web app manifests
that it names, then an icon for each app.  Every one of these chains ends with an instrument
or without one, and the search is over with its last chain.  What is downloaded is given by
the answers of the network, and a download may complete at any time after it was issued.
-/

namespace ChromiumIos

open Lib

/-- What is read from the text of a manifest. -/
inductive ManifestValue where
  | string (value : String)
  | list (elements : List ManifestValue)
  | dictionary (entries : List (String × ManifestValue))
  | other

namespace ManifestValue

def asString : ManifestValue → Option String
  | string value => some value
  | _ => none

def asList : ManifestValue → Option (List ManifestValue)
  | list elements => some elements
  | _ => none

def asDictionary : ManifestValue → Option (List (String × ManifestValue))
  | dictionary entries => some entries
  | _ => none

def getString (entries : List (String × ManifestValue)) (key : String) : Option String :=
  (entries.lookup key).bind asString

def getList (entries : List (String × ManifestValue)) (key : String) :
    Option (List ManifestValue) :=
  (entries.lookup key).bind asList

end ManifestValue

/-- What the finder asks of the device and of the libraries. -/
structure PaymentDevice where
  readJSON : String → Option ManifestValue
  parse : String → GURL
  isValid : GURL → Bool
  schemeIs : GURL → String → Bool
  resolve : GURL → String → GURL
  canOpenURL : String → Bool

/-- The answers of the network: by search and position of the method, and for web app
manifests and icons by the URL of the web app manifest.  Text that is empty stands for a
failed download. -/
structure PaymentAnswers where
  paymentManifest : Nat → Nat → String
  webAppManifest : Nat → Nat → GURL → String
  icon : Nat → Nat → GURL → Option Nat

structure IOSPaymentInstrument where
  methodName : String
  universalLink : GURL
  appName : String
  icon : Nat
deriving DecidableEq

structure PaymentAppDetails where
  appName : String
  iconUrl : GURL
  universalLink : GURL
deriving DecidableEq

/-! ## The manifests -/

def kMaximumNumberOfWebAppManifests : Nat := 100
def kDefaultApplications : String := "default_applications"
def kShortName : String := "short_name"
def kIcons : String := "icons"
def kIconsSource : String := "src"
def kIconsSizes : String := "sizes"
def kIconSizes32 : String := "32x32"
def kRelatedApplications : String := "related_applications"
def kPlatform : String := "platform"
def kPlatformItunes : String := "itunes"
def kRelatedApplicationsUrl : String := "url"

def kBobpayPaymentMethodIdentifier : String := "https://emerald-eon.appspot.com/bobpay"
def kAlicepayPaymentMethodIdentifier : String := "https://emerald-eon.appspot.com/alicepay"
def kBobpaySchemeName : String := "bobpay://"

def getMethodNameToSchemeName : List (String × String) :=
  [(kBobpayPaymentMethodIdentifier, kBobpaySchemeName),
    (kAlicepayPaymentMethodIdentifier, kBobpaySchemeName)]

namespace PaymentDevice

open ManifestValue

variable (device : PaymentDevice)

def isHttps (url : GURL) : Bool := device.isValid url && device.schemeIs url "https"

def filterUnsupportedURLPaymentMethods (methods : List GURL) : List GURL :=
  methods.filter fun method =>
    match getMethodNameToSchemeName.lookup method.spec with
    | none => false
    | some scheme => device.canOpenURL scheme

def readDictionary (input : String) : Option (List (String × ManifestValue)) :=
  (device.readJSON input).bind asDictionary

/-- One round of the loop over the default applications. -/
def insertManifestURL (urls : List GURL) (element : ManifestValue) : List GURL :=
  match element.asString with
  | none => urls
  | some item =>
    if item = "" then
      urls
    else if device.isHttps (device.parse item) = false then
      urls
    else
      if device.parse item ∈ urls then urls else urls ++ [device.parse item]

def getWebAppManifestURLsFromPaymentManifest (input : String) : Option (List GURL) :=
  ((device.readDictionary input).bind fun entries => getList entries kDefaultApplications).bind
    fun list =>
      if kMaximumNumberOfWebAppManifests < list.length then
        none
      else
        let urls := list.foldl device.insertManifestURL []
        if urls.isEmpty then none else some urls

def iconSource (icon : ManifestValue) : Option String :=
  icon.asDictionary.bind fun entries =>
    (getString entries kIconsSizes).bind fun sizes =>
      if sizes ≠ kIconSizes32 then
        none
      else
        (getString entries kIconsSource).bind fun source =>
          if source = "" then none else some source

def findIconUrl (manifestUrl : GURL) : List ManifestValue → GURL → GURL
  | [], found => found
  | icon :: rest, found =>
    match iconSource icon with
    | none => findIconUrl manifestUrl rest found
    | some source =>
      let completeUrl := device.resolve manifestUrl source
      if device.isHttps completeUrl then
        completeUrl
      else
        findIconUrl manifestUrl rest
          (if device.isHttps (device.parse source) then device.parse source else found)

def relatedLink (application : ManifestValue) : Option GURL :=
  application.asDictionary.bind fun entries =>
    (getString entries kPlatform).bind fun platform =>
      if platform ≠ kPlatformItunes then
        none
      else
        (getString entries kRelatedApplicationsUrl).bind fun link =>
          if link = "" then
            none
          else if device.isHttps (device.parse link) then
            some (device.parse link)
          else
            none

/-- `GetPaymentAppDetailsFromWebAppManifest`; `none` where it returns false. -/
def getPaymentAppDetailsFromWebAppManifest (input : String) (manifestUrl : GURL) :
    Option PaymentAppDetails :=
  (device.readDictionary input).bind fun entries =>
    (getString entries kShortName).bind fun appName =>
      if appName = "" then
        none
      else
        (getList entries kIcons).bind fun icons =>
          let iconUrl := device.findIconUrl manifestUrl icons GURL.empty
          if iconUrl.isEmpty then
            none
          else
            (getList entries kRelatedApplications).bind fun applications =>
              let universalLink := (applications.findSome? device.relatedLink).getD GURL.empty
              if universalLink.isEmpty then none else some ⟨appName, iconUrl, universalLink⟩

end PaymentDevice

/-! ## The searches -/

/-- How far a chain has come: a download is issued by a loop, and completes later. -/
inductive PaymentStage where
  | issuePaymentManifest
  | paymentManifest
  | issueWebAppManifest (url : GURL)
  | webAppManifest (url : GURL)
  | icon (url : GURL) (details : PaymentAppDetails)
deriving DecidableEq

/-- A chain of the search with a number, for the method at a position of its list. -/
structure PaymentChain where
  search : Nat
  position : Nat
  method : GURL
  stage : PaymentStage
deriving DecidableEq

structure IOSPaymentInstrumentFinder where
  callback : Option Nat
  numInstrumentsToFind : Nat
  instrumentsFound : List IOSPaymentInstrument
  chains : List PaymentChain
  nextCall : Nat

/-- What callers see: a call and whether a search is active then, the value that it returns and
the instruments that its callback gets. -/
inductive InstrumentEvent where
  | called (call : Nat) (methods : List GURL) (active : Bool)
  | returned (call : Nat) (methods : List GURL)
  | found (call : Nat) (instruments : List IOSPaymentInstrument)
deriving DecidableEq

def decrementSize (size : Nat) : Nat := if size = 0 then 2 ^ 64 - 1 else size - 1

namespace IOSPaymentInstrumentFinder

abbrev Outcome := IOSPaymentInstrumentFinder × List InstrumentEvent

def initial : IOSPaymentInstrumentFinder where
  callback := none
  numInstrumentsToFind := 0
  instrumentsFound := []
  chains := []
  nextCall := 0

variable (finder : IOSPaymentInstrumentFinder) (device : PaymentDevice) (chain : PaymentChain)

def createIOSPaymentInstrumentsForMethods (methods : List GURL) : Outcome :=
  let called : IOSPaymentInstrumentFinder := { finder with nextCall := finder.nextCall + 1 }
  let filteredMethods := device.filterUnsupportedURLPaymentMethods methods
  if finder.callback.isSome ∨ filteredMethods = [] then
    (called, [.found finder.nextCall [], .returned finder.nextCall []])
  else
    ({ called with
        callback := some finder.nextCall
        numInstrumentsToFind := filteredMethods.length
        instrumentsFound := []
        chains := finder.chains ++ filteredMethods.zipIdx.map fun (method, position) =>
          ⟨finder.nextCall, position, method, .issuePaymentManifest⟩ },
      [.returned finder.nextCall filteredMethods])

def onPaymentInstrumentProcessed : Checked Outcome :=
  finder.callback.map fun call =>
    let remaining := decrementSize finder.numInstrumentsToFind
    if remaining = 0 then
      ({ finder with callback := none, numInstrumentsToFind := remaining, instrumentsFound := [] },
        [.found call finder.instrumentsFound])
    else
      ({ finder with numInstrumentsToFind := remaining }, [])

def endChain : Checked Outcome :=
  ({ finder with chains := finder.chains.erase chain } :
    IOSPaymentInstrumentFinder).onPaymentInstrumentProcessed

def continueChain (stages : List PaymentStage) : IOSPaymentInstrumentFinder :=
  { finder with
    chains := finder.chains.erase chain ++ stages.map fun stage => { chain with stage := stage } }

def onPaymentManifestDownloaded (content : String) : Checked Outcome :=
  if content = "" then
    finder.endChain chain
  else
    match device.getWebAppManifestURLsFromPaymentManifest content with
    | none => finder.endChain chain
    | some urls =>
      let adjusted : IOSPaymentInstrumentFinder :=
        { finder with
          numInstrumentsToFind := finder.numInstrumentsToFind + (urls.length - 1) }
      some (adjusted.continueChain chain (urls.map .issueWebAppManifest), [])

def onWebAppManifestDownloaded (url : GURL) (content : String) : Checked Outcome :=
  if content = "" then
    finder.endChain chain
  else
    match device.getPaymentAppDetailsFromWebAppManifest content url with
    | none => finder.endChain chain
    | some details => some (finder.continueChain chain [.icon url details], [])

def instrument (method : GURL) (details : PaymentAppDetails) (icon : Nat) :
    IOSPaymentInstrument :=
  ⟨method.spec, details.universalLink, details.appName, icon⟩

/-- The block of `CreateIOSPaymentInstrument`, with the data of the icon if there is any. -/
def onIconFetched (details : PaymentAppDetails) (data : Option Nat) : Checked Outcome :=
  let found : IOSPaymentInstrumentFinder :=
    { finder with
      instrumentsFound := finder.instrumentsFound ++
        (data.map (instrument chain.method details)).toList }
  found.endChain chain

/-- What happens next to a chain. -/
def advance (answers : PaymentAnswers) (chain : PaymentChain) : Checked Outcome :=
  match chain.stage with
  | .issuePaymentManifest => some (finder.continueChain chain [.paymentManifest], [])
  | .paymentManifest =>
    finder.onPaymentManifestDownloaded device chain
      (answers.paymentManifest chain.search chain.position)
  | .issueWebAppManifest url => some (finder.continueChain chain [.webAppManifest url], [])
  | .webAppManifest url =>
    finder.onWebAppManifestDownloaded device chain url
      (answers.webAppManifest chain.search chain.position url)
  | .icon url details =>
    finder.onIconFetched chain details (answers.icon chain.search chain.position url)

inductive Input where
  | create (methods : List GURL)
  | advance (chain : PaymentChain)

def step (answers : PaymentAnswers) (finder : IOSPaymentInstrumentFinder) : Input → Checked Outcome
  | .create methods =>
    let (after, events) := finder.createIOSPaymentInstrumentsForMethods device methods
    some (after, .called finder.nextCall methods finder.callback.isSome :: events)
  | .advance chain => finder.advance device answers chain

/-- Calls come at any time; a chain goes on while it has not ended. -/
def Accepts : Input → Prop
  | .create _ => True
  | .advance chain => chain ∈ finder.chains

end IOSPaymentInstrumentFinder

end ChromiumIos
