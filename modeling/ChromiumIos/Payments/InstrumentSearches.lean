import ChromiumIos.Payments.IOSPaymentInstrumentFinder

/-!
# Searches for payment instruments end once

The instruments found so far, with those that the open chains will still yield, are those
that the search is expected to find.  The counter is the number of open chains, so the
callback runs when the last one ends.
-/

namespace ChromiumIos

open Lib

namespace PaymentDevice

open ManifestValue

variable {device : PaymentDevice} {urls : List GURL} {url : GURL}

/-- There is an app on the device that can handle the scheme of the method. -/
def supports (device : PaymentDevice) (method : GURL) : Bool :=
  getMethodNameToSchemeName.any fun (name, scheme) =>
    name = method.spec && device.canOpenURL scheme

theorem filterUnsupportedURLPaymentMethods_eq (methods : List GURL) :
    device.filterUnsupportedURLPaymentMethods methods = methods.filter device.supports := by
  refine List.filter_congr fun method _ => ?_
  have distinct : kBobpayPaymentMethodIdentifier ≠ kAlicepayPaymentMethodIdentifier := by decide
  simp only [supports, getMethodNameToSchemeName, List.any_cons, List.any_nil, Bool.or_false,
    List.lookup]
  by_cases bobpay : method.spec = kBobpayPaymentMethodIdentifier
  · simp [bobpay, distinct.symm]
  · by_cases alicepay : method.spec = kAlicepayPaymentMethodIdentifier
    · simp [alicepay, distinct, beq_false_of_ne distinct.symm]
    · simp [beq_false_of_ne bobpay, beq_false_of_ne alicepay, Ne.symm bobpay, Ne.symm alicepay]

/-- A round of the loop adds the URL of the element, if it has one and it is new. -/
theorem insertManifestURL_spec (urls : List GURL) (element : ManifestValue)
    (distinct : urls.Nodup) :
    (device.insertManifestURL urls element).Nodup ∧
      ∀ url, url ∈ device.insertManifestURL urls element ↔ url ∈ urls ∨
        ∃ item, element = .string item ∧ item ≠ "" ∧ device.isHttps url = true ∧
          device.parse item = url := by
  have keep : (∀ item, element = .string item → item ≠ "" →
      device.isHttps (device.parse item) = true → device.parse item ∈ urls) →
      urls.Nodup ∧ ∀ url, url ∈ urls ↔ url ∈ urls ∨ ∃ item, element = .string item ∧ item ≠ "" ∧
        device.isHttps url = true ∧ device.parse item = url := by
    grind
  unfold insertManifestURL
  cases element with
  | string _ =>
    simp only [asString]
    split
    · next empty =>
      grind
    · next filled =>
      split
      · next plain =>
        simpa [plain] using keep
      · next https =>
        split
        · next known =>
          grind
        · next fresh =>
          grind
  | list | dictionary | other => exact keep fun item same => nomatch same

/-- The manifests of a method have distinct URLs, which are the valid ones of its list. -/
theorem foldl_insertManifestURL (device : PaymentDevice) (list : List ManifestValue)
    (distinct : urls.Nodup) :
    (list.foldl device.insertManifestURL urls).Nodup ∧
      ∀ url, url ∈ list.foldl device.insertManifestURL urls ↔ url ∈ urls ∨
        ∃ item, .string item ∈ list ∧ item ≠ "" ∧ device.isHttps url = true ∧
          device.parse item = url := by
  induction list generalizing urls with
  | nil =>
    simp [distinct]
  | cons element _ ih =>
    obtain ⟨firstDistinct, first⟩ := insertManifestURL_spec urls element distinct
    obtain ⟨allDistinct, others⟩ := ih firstDistinct
    refine ⟨allDistinct, fun url => (others url).trans ?_⟩
    grind

/-- The URLs are the distinct https URLs that the manifest names. -/
def Names (device : PaymentDevice) (content : String) (urls : List GURL) : Prop :=
  urls ≠ [] ∧ urls.Nodup ∧ ∃ entries list, device.readDictionary content = some entries ∧
    getList entries kDefaultApplications = some list ∧
    ∀ url, url ∈ urls ↔ ∃ item, .string item ∈ list ∧ item ≠ "" ∧ device.isHttps url = true ∧
      device.parse item = url

theorem getWebAppManifestURLs_names {content : String}
    (read : device.getWebAppManifestURLsFromPaymentManifest content = some urls) :
    device.Names content urls := by
  unfold getWebAppManifestURLsFromPaymentManifest at read
  obtain ⟨list, found, read⟩ := Option.bind_eq_some_iff.mp read
  obtain ⟨entries, dictionary, found⟩ := Option.bind_eq_some_iff.mp found
  split at read
  · cases read
  · dsimp only at read
    split at read
    · cases read
    · next filled =>
      cases read
      obtain ⟨distinct, named⟩ := foldl_insertManifestURL device list List.nodup_nil
      refine ⟨fun empty => filled (by rw [empty]; rfl), distinct, entries, list, dictionary,
        found, fun url => (named url).trans ?_⟩
      exact or_iff_right List.not_mem_nil

end PaymentDevice

namespace IOSPaymentInstrumentFinder

variable {device : PaymentDevice} {answers : PaymentAnswers}
variable {finder after : IOSPaymentInstrumentFinder} {log events : List InstrumentEvent}
variable {chain : PaymentChain} {call : Nat} {methods : List GURL}

/-! ## What a search is to find -/

def expectedOfApp (device : PaymentDevice) (answers : PaymentAnswers) (search position : Nat)
    (method url : GURL) : List IOSPaymentInstrument :=
  if answers.webAppManifest search position url = "" then
    []
  else
    match device.getPaymentAppDetailsFromWebAppManifest
        (answers.webAppManifest search position url) url with
    | none => []
    | some details => ((answers.icon search position url).map (instrument method details)).toList

def expectedOfMethod (device : PaymentDevice) (answers : PaymentAnswers) (search position : Nat)
    (method : GURL) : List IOSPaymentInstrument :=
  if answers.paymentManifest search position = "" then
    []
  else
    match device.getWebAppManifestURLsFromPaymentManifest
        (answers.paymentManifest search position) with
    | none => []
    | some urls => urls.flatMap (expectedOfApp device answers search position method)

def expected (device : PaymentDevice) (answers : PaymentAnswers) (search : Nat)
    (methods : List GURL) : List IOSPaymentInstrument :=
  methods.zipIdx.flatMap fun (method, position) =>
    expectedOfMethod device answers search position method

def yields (device : PaymentDevice) (answers : PaymentAnswers) (chain : PaymentChain) :
    List IOSPaymentInstrument :=
  match chain.stage with
  | .issuePaymentManifest | .paymentManifest =>
    expectedOfMethod device answers chain.search chain.position chain.method
  | .issueWebAppManifest url | .webAppManifest url =>
    expectedOfApp device answers chain.search chain.position chain.method url
  | .icon url details =>
    ((answers.icon chain.search chain.position url).map
      (instrument chain.method details)).toList

/-- The search of a call that is still going on. -/
structure Active (device : PaymentDevice) (answers : PaymentAnswers) (log : List InstrumentEvent)
    (finder : IOSPaymentInstrumentFinder) (call : Nat) : Prop where
  started : ∃ methods, .called call methods false ∈ log ∧
    (finder.instrumentsFound ++ finder.chains.flatMap (yields device answers)).Perm
      (expected device answers call (methods.filter device.supports))
  ofCall : ∀ chain ∈ finder.chains, chain.search = call
  unfinished : finder.chains ≠ []

def isFound (call : Nat) : InstrumentEvent → Bool
  | .found other _ => other = call
  | _ => false

/-- What a call is answered with: nothing while a search is active, or the instruments of the
supported ones of its methods. -/
def Answers (device : PaymentDevice) (answers : PaymentAnswers) (log : List InstrumentEvent)
    (call : Nat) (instruments : List IOSPaymentInstrument) : Prop :=
  (∃ methods, .called call methods true ∈ log ∧ instruments = []) ∨
    ∃ methods, .called call methods false ∈ log ∧
      instruments.Perm (expected device answers call (methods.filter device.supports))

/-- What a call returns: nothing while a search is active, or the supported ones of its
methods. -/
def Returns (device : PaymentDevice) (log : List InstrumentEvent) (call : Nat)
    (searched : List GURL) : Prop :=
  (∃ methods, .called call methods true ∈ log ∧ searched = []) ∨
    ∃ methods, .called call methods false ∈ log ∧ searched = methods.filter device.supports

structure Searching (device : PaymentDevice) (answers : PaymentAnswers)
    (log : List InstrumentEvent) (finder : IOSPaymentInstrumentFinder) : Prop where
  count : finder.numInstrumentsToFind = finder.chains.length
  idle : finder.callback = none → finder.chains = []
  active : ∀ call, finder.callback = some call → Active device answers log finder call
  known : ∀ call, finder.callback = some call → call < finder.nextCall
  complete : ∀ call instruments, .found call instruments ∈ log →
    Answers device answers log call instruments
  returns : ∀ call searched, .returned call searched ∈ log → Returns device log call searched
  once : ∀ call, log.countP (isFound call) =
    if call < finder.nextCall ∧ finder.callback ≠ some call then 1 else 0

theorem Answers.append {instruments : List IOSPaymentInstrument}
    (answered : Answers device answers log call instruments) (events : List InstrumentEvent) :
    Answers device answers (log ++ events) call instruments := by
  rcases answered with ⟨methods, called, none⟩ | ⟨methods, called, perm⟩
  · exact .inl ⟨methods, List.mem_append_left _ called, none⟩
  · exact .inr ⟨methods, List.mem_append_left _ called, perm⟩

theorem Returns.append {searched : List GURL} (returned : Returns device log call searched)
    (events : List InstrumentEvent) : Returns device (log ++ events) call searched := by
  rcases returned with ⟨methods, called, none⟩ | ⟨methods, called, same⟩
  · exact .inl ⟨methods, List.mem_append_left _ called, none⟩
  · exact .inr ⟨methods, List.mem_append_left _ called, same⟩

/-- A chain goes on in stages that together yield what it did. -/
theorem Searching.continueChain (searching : Searching device answers log finder)
    (mem : chain ∈ finder.chains) {stages : List PaymentStage} {number : Nat}
    (nonempty : stages ≠ []) (count : number = finder.numInstrumentsToFind + (stages.length - 1))
    (same : (stages.map fun stage => { chain with stage := stage }).flatMap
      (yields device answers) = yields device answers chain) :
    Searching device answers log
      (({ finder with numInstrumentsToFind := number } :
        IOSPaymentInstrumentFinder).continueChain chain stages) := by
  have positive := List.length_pos_of_mem mem
  have longer := List.length_pos_of_ne_nil nonempty
  constructor
  case count =>
    grind [IOSPaymentInstrumentFinder.continueChain, searching.count]
  case idle =>
    intro off
    rw [searching.idle off] at mem
    cases mem
  case active =>
    intro call current
    obtain ⟨⟨methods, called, perm⟩, ofCall, -⟩ := searching.active call current
    refine ⟨⟨methods, called, ?_⟩, ?_, ?_⟩
    · refine List.Perm.trans (List.Perm.append_left _ ?_) perm
      change ((finder.chains.erase chain ++ stages.map _).flatMap _).Perm _
      grind [List.perm_cons_erase]
    · grind [IOSPaymentInstrumentFinder.continueChain]
    · simp [IOSPaymentInstrumentFinder.continueChain, nonempty]
  case known => exact searching.known
  case complete => exact searching.complete
  case returns => exact searching.returns
  case once => exact searching.once

/-- The callback of a search gets what the search has found, and leaves the finder idle. -/
theorem Searching.answer (searching : Searching device answers log finder)
    (current : finder.callback = some call) {instruments : List IOSPaymentInstrument}
    (answered : Answers device answers log call instruments) :
    Searching device answers (log ++ [.found call instruments])
      { finder with
        callback := none, numInstrumentsToFind := 0, instrumentsFound := [], chains := [] } := by
  constructor
  case count => rfl
  case idle => exact fun _ => rfl
  case active => exact fun _ other => nomatch other
  case known => exact fun _ other => nomatch other
  case complete =>
    intro other others mem
    rcases List.mem_append.mp mem with earlier | now
    · exact (searching.complete other others earlier).append _
    · cases List.mem_singleton.mp now
      exact answered.append _
  case returns =>
    intro other searched mem
    rcases List.mem_append.mp mem with earlier | now
    · exact (searching.returns other searched earlier).append _
    · cases List.mem_singleton.mp now
  case once =>
    intro other
    have before := searching.once other
    rw [current] at before
    rw [List.countP_append, before, List.countP_singleton]
    by_cases same : call = other
    · simp [isFound, same, searching.known, current]
    · simp [isFound, same]

/-- A chain ends with an instrument or without one; the last one ends the search. -/
theorem Searching.endChain (searching : Searching device answers log finder)
    (mem : chain ∈ finder.chains) {instruments : List IOSPaymentInstrument}
    (found : instruments = finder.instrumentsFound ++ yields device answers chain) :
    ∃ after events, ({ finder with instrumentsFound := instruments } :
        IOSPaymentInstrumentFinder).endChain chain = some (after, events) ∧
      Searching device answers (log ++ events) after := by
  have positive := List.length_pos_of_mem mem
  cases current : finder.callback with
  | none =>
    rw [searching.idle current] at mem
    cases mem
  | some call =>
    obtain ⟨⟨methods, called, perm⟩, ofCall, -⟩ := searching.active call current
    have remaining : decrementSize finder.numInstrumentsToFind =
        (finder.chains.erase chain).length := by
      rw [decrementSize, searching.count, List.length_erase_of_mem mem,
        if_neg (Nat.ne_of_gt positive)]
    have split : (instruments ++ (finder.chains.erase chain).flatMap
        (yields device answers)).Perm
          (expected device answers call (methods.filter device.supports)) := by
      have all := (List.perm_cons_erase mem).flatMap_right (yields device answers)
      grind
    unfold IOSPaymentInstrumentFinder.endChain onPaymentInstrumentProcessed
    dsimp only
    rw [Option.map_some, remaining]
    by_cases last : (finder.chains.erase chain).length = 0
    · have none : finder.chains.erase chain = [] := List.length_eq_zero_iff.mp last
      rw [none, List.flatMap_nil, List.append_nil] at split
      refine ⟨_, _, congrArg some (if_pos last), ?_⟩
      rw [none]
      exact searching.answer current (.inr ⟨methods, called, split⟩)
    · refine ⟨_, _, congrArg some (if_neg last), ?_⟩
      rw [List.append_nil]
      constructor
      case count => rfl
      case idle => exact fun off => nomatch off
      case active =>
        intro other same
        cases same
        refine ⟨⟨methods, called, split⟩, ?_, fun none => last (congrArg List.length none)⟩
        grind
      case known =>
        simp [searching.known, current.trans]
      case complete => exact searching.complete
      case returns => exact searching.returns
      case once =>
        intro other
        rw [searching.once other, current]

theorem Searching.advance (searching : Searching device answers log finder)
    (mem : chain ∈ finder.chains) :
    ∃ after events, finder.advance device answers chain = some (after, events) ∧
      Searching device answers (log ++ events) after := by
  have continued : ∀ stage : PaymentStage,
      yields device answers { chain with stage := stage } = yields device answers chain →
      Searching device answers (log ++ []) (finder.continueChain chain [stage]) := by
    intro stage same
    simp [searching.continueChain, mem, same]
  have ended : yields device answers chain = [] →
      ∃ after events, finder.endChain chain = some (after, events) ∧
        Searching device answers (log ++ events) after := by
    intro nothing
    simp [nothing, searching.endChain, mem]
  unfold IOSPaymentInstrumentFinder.advance
  cases stage : chain.stage with
  | issuePaymentManifest | issueWebAppManifest url =>
    exact ⟨_, _, rfl, continued _ (by simp only [yields, stage])⟩
  | paymentManifest =>
    have yield : yields device answers chain =
        expectedOfMethod device answers chain.search chain.position chain.method := by
      simp only [yields, stage]
    unfold expectedOfMethod at yield
    dsimp only
    unfold onPaymentManifestDownloaded
    split
    · next empty =>
      rw [if_pos empty] at yield
      exact ended yield
    · next filled =>
      rw [if_neg filled] at yield
      cases read : device.getWebAppManifestURLsFromPaymentManifest
          (answers.paymentManifest chain.search chain.position) with
      | none =>
        rw [read] at yield
        exact ended yield
      | some _ =>
        rw [read] at yield
        refine ⟨_, _, rfl, ?_⟩
        rw [List.append_nil]
        refine searching.continueChain mem ?_ ?_ ?_
        · intro none
          exact (PaymentDevice.getWebAppManifestURLs_names read).1 (List.map_eq_nil_iff.mp none)
        · rw [List.length_map]
        · rw [yield, List.map_map, List.flatMap_map]
          rfl
  | webAppManifest url =>
    have yield : yields device answers chain =
        expectedOfApp device answers chain.search chain.position chain.method url := by
      simp only [yields, stage]
    unfold expectedOfApp at yield
    dsimp only
    unfold onWebAppManifestDownloaded
    split
    · next empty =>
      rw [if_pos empty] at yield
      exact ended yield
    · next filled =>
      rw [if_neg filled] at yield
      cases read : device.getPaymentAppDetailsFromWebAppManifest
          (answers.webAppManifest chain.search chain.position url) url with
      | none =>
        rw [read] at yield
        exact ended yield
      | some details =>
        rw [read] at yield
        exact ⟨_, _, rfl, continued (.icon url details) yield.symm⟩
  | icon url details =>
    have yield : yields device answers chain =
        ((answers.icon chain.search chain.position url).map
          (instrument chain.method details)).toList := by
      simp only [yields, stage]
    exact searching.endChain mem (by rw [yield])

theorem create_of_refusing (refusing : finder.callback.isSome = true ∨
      device.filterUnsupportedURLPaymentMethods methods = []) :
    finder.createIOSPaymentInstrumentsForMethods device methods =
      ({ finder with nextCall := finder.nextCall + 1 },
        [.found finder.nextCall [], .returned finder.nextCall []]) :=
  if_pos refusing

theorem Searching.fresh (searching : Searching device answers log finder)
    (current : finder.callback = some call) : call ≠ finder.nextCall :=
  Nat.ne_of_lt (searching.known call current)

/-- A call that is refused is answered with nothing, and returns nothing. -/
theorem refused_answers (refusing : finder.callback.isSome = true ∨
      device.filterUnsupportedURLPaymentMethods methods = [])
    (called : .called call methods finder.callback.isSome ∈ log) :
    Answers device answers log call [] ∧ Returns device log call [] := by
  cases active : finder.callback.isSome with
  | true =>
    rw [active] at called
    exact ⟨.inl ⟨methods, called, rfl⟩, .inl ⟨methods, called, rfl⟩⟩
  | false =>
    rw [active] at called refusing
    have none := refusing.resolve_left Bool.false_ne_true
    rw [PaymentDevice.filterUnsupportedURLPaymentMethods_eq] at none
    refine ⟨.inr ⟨methods, called, ?_⟩, .inr ⟨methods, called, none.symm⟩⟩
    rw [none]
    exact .refl _

/-- A call is refused while a search is going on, which goes on as before. -/
theorem Searching.refuse (searching : Searching device answers log finder)
    (refusing : finder.callback.isSome = true ∨
      device.filterUnsupportedURLPaymentMethods methods = []) :
    Searching device answers
      (log ++ [.called finder.nextCall methods finder.callback.isSome,
        .found finder.nextCall [], .returned finder.nextCall []])
      { finder with nextCall := finder.nextCall + 1 } := by
  constructor
  case count => exact searching.count
  case idle => exact searching.idle
  case active =>
    intro call current
    obtain ⟨⟨others, called, perm⟩, ofCall, unfinished⟩ := searching.active call current
    exact ⟨⟨others, List.mem_append_left _ called, perm⟩, ofCall, unfinished⟩
  case known => exact fun call current => Nat.lt_succ_of_lt (searching.known call current)
  case complete =>
    intro call instruments mem
    rcases List.mem_append.mp mem with before | now
    · exact (searching.complete call instruments before).append _
    · obtain ⟨rfl, rfl⟩ : call = finder.nextCall ∧ instruments = [] := by simpa using now
      exact (refused_answers refusing (by simp)).1
  case returns =>
    intro call searched mem
    rcases List.mem_append.mp mem with before | now
    · exact (searching.returns call searched before).append _
    · obtain ⟨rfl, rfl⟩ : call = finder.nextCall ∧ searched = [] := by simpa using now
      exact (refused_answers refusing (by simp) : Answers device answers _ _ _ ∧ _).2
  case once =>
    intro call
    rw [List.countP_append, searching.once call]
    by_cases same : call = finder.nextCall
    · have other : finder.callback ≠ some finder.nextCall :=
        fun current => searching.fresh current rfl
      subst same
      simp [isFound, other]
    · have earlier : call < finder.nextCall + 1 ↔ call < finder.nextCall := by omega
      simp [isFound, Ne.symm same, earlier]

/-- A call that has methods begins a search, if none is going on. -/
theorem Searching.begin (searching : Searching device answers log finder)
    (idle : finder.callback = none)
    (supported : device.filterUnsupportedURLPaymentMethods methods ≠ []) :
    Searching device answers
      (log ++ .called finder.nextCall methods false ::
        (finder.createIOSPaymentInstrumentsForMethods device methods).2)
      (finder.createIOSPaymentInstrumentsForMethods device methods).1 := by
  have accepted : ¬ (finder.callback.isSome = true ∨
      device.filterUnsupportedURLPaymentMethods methods = []) := by
    rw [idle]
    exact not_or.mpr ⟨Bool.false_ne_true, supported⟩
  unfold createIOSPaymentInstrumentsForMethods
  dsimp only
  rw [if_neg accepted, searching.idle idle, List.nil_append]
  constructor
  case count => exact ((List.length_map _).trans List.length_zipIdx).symm
  case idle => exact fun off => nomatch off
  case active =>
    intro call current
    cases current
    refine ⟨⟨methods, List.mem_append_right _ List.mem_cons_self, ?_⟩, ?_, ?_⟩
    · simp [yields, expected, List.flatMap_map,
        PaymentDevice.filterUnsupportedURLPaymentMethods_eq]
    · grind
    · simp [supported]
  case known => simp
  case complete =>
    intro call instruments mem
    rcases List.mem_append.mp mem with before | now
    · exact (searching.complete call instruments before).append _
    · simp at now
  case returns =>
    intro call searched mem
    rcases List.mem_append.mp mem with before | now
    · exact (searching.returns call searched before).append _
    · obtain ⟨rfl, rfl⟩ : call = finder.nextCall ∧
          searched = device.filterUnsupportedURLPaymentMethods methods := by
        simpa using now
      exact .inr ⟨methods, by simp, PaymentDevice.filterUnsupportedURLPaymentMethods_eq methods⟩
  case once =>
    intro call
    rw [List.countP_append, searching.once call, idle]
    by_cases same : call = finder.nextCall
    · subst same
      simp [isFound]
    · have earlier : call < finder.nextCall + 1 ↔ call < finder.nextCall := by omega
      simp [isFound, Ne.symm same, earlier]

theorem Searching.create (searching : Searching device answers log finder)
    (methods : List GURL) :
    Searching device answers
      (log ++ .called finder.nextCall methods finder.callback.isSome ::
        (finder.createIOSPaymentInstrumentsForMethods device methods).2)
      (finder.createIOSPaymentInstrumentsForMethods device methods).1 := by
  by_cases refusing : finder.callback.isSome = true ∨
      device.filterUnsupportedURLPaymentMethods methods = []
  · rw [create_of_refusing refusing]
    exact searching.refuse refusing
  · obtain ⟨free, supported⟩ := not_or.mp refusing
    have idle : finder.callback = none := Option.not_isSome_iff_eq_none.mp free
    have begun := searching.begin idle supported
    rwa [idle]

/-! ## Runs -/

theorem Searching.step (searching : Searching device answers log finder) {input : Input}
    (accepted : finder.Accepts input) :
    ∃ after events, finder.step device answers input = some (after, events) ∧
      Searching device answers (log ++ events) after := by
  cases input with
  | create methods => exact ⟨_, _, rfl, searching.create methods⟩
  | advance _ => exact searching.advance accepted

/-- The counter is that of the open chains, every callback is run once, with what its call
was to find and when the last chain has ended, and calls meanwhile change nothing. -/
structure EndsOnce (device : PaymentDevice) (answers : PaymentAnswers)
    (log : List InstrumentEvent) (finder : IOSPaymentInstrumentFinder) : Prop where
  count : finder.numInstrumentsToFind = finder.chains.length
  searching : finder.callback = none ↔ finder.chains = []
  noWrap : ∀ chain ∈ finder.chains, finder.numInstrumentsToFind ≠ 0
  once : ∀ call, log.countP (isFound call) =
    if call < finder.nextCall ∧ finder.callback ≠ some call then 1 else 0
  complete : ∀ call instruments, .found call instruments ∈ log →
    Answers device answers log call instruments
  returns : ∀ call searched, .returned call searched ∈ log → Returns device log call searched
  refused : finder.callback ≠ none → ∀ methods,
    finder.step device answers (.create methods) =
      some ({ finder with nextCall := finder.nextCall + 1 },
        [.called finder.nextCall methods true, .found finder.nextCall [],
          .returned finder.nextCall []])
  begins : finder.callback = none → ∀ methods, methods.filter device.supports ≠ [] →
    ∃ after, finder.step device answers (.create methods) = some (after,
        [.called finder.nextCall methods false,
          .returned finder.nextCall (methods.filter device.supports)]) ∧
      after.callback = some finder.nextCall
  proceeds : ∀ input, finder.Accepts input → (finder.step device answers input).isSome

instance (finder : IOSPaymentInstrumentFinder) : (input : Input) → Decidable (finder.Accepts input)
  | .create _ => isTrue trivial
  | .advance chain => inferInstanceAs (Decidable (chain ∈ finder.chains))

end IOSPaymentInstrumentFinder

end ChromiumIos
