import ChromiumIos.Omaha.PingTimes

/-!
# The age of a request

A ping for an event that was sent before tells the server its age.  The age is counted from the
time of the current ping, which is written when a ping has been acknowledged, as the time at
which the next one is due, and is not written when an event is sent for the first time.  An event
keeps its request id until it is acknowledged, through new processes and new versions.
-/

namespace ChromiumIos

open Lib

namespace OmahaService

variable {Version Url : Type} [LinearOrder Version]

variable {state : OmahaSetup Version Url × OmahaService Version} {defaults : OmahaDefaults Version}
  (setup : OmahaSetup Version Url) (service : OmahaService Version)

/-! ## Versions that come one after the other -/

/-- What happens to a service, or a new process of another version. -/
inductive VersionInput (Version Url : Type) where
  | call (input : OmahaInput)
  | update (setup : OmahaSetup Version Url) (readings : Readings)

def stepVersion (state : OmahaSetup Version Url × OmahaService Version) :
    VersionInput Version Url →
      Checked ((OmahaSetup Version Url × OmahaService Version) × List (OmahaOutput Url))
  | .call input =>
    (state.2.step state.1 input).map fun (after, emitted) => ((state.1, after), emitted)
  | .update setup readings =>
    some ((setup, initializeService setup state.2.defaults readings), [])

def AcceptsVersion (state : OmahaSetup Version Url × OmahaService Version) :
    VersionInput Version Url → Prop
  | .call input => state.2.Accepts input
  | .update _ readings => state.2.clock ≤ readings.first

instance (state : OmahaSetup Version Url × OmahaService Version)
    (input : VersionInput Version Url) : Decidable (AcceptsVersion state input) :=
  match input with
  | .call input => inferInstanceAs (Decidable (state.2.Accepts input))
  | .update _ _ => inferInstanceAs (Decidable (_ ≤ _))

def runVersions (defaults : OmahaDefaults Version) (launch : Readings)
    (inputs : List (VersionInput Version Url)) :
    Checked ((OmahaSetup Version Url × OmahaService Version) × List (OmahaOutput Url)) :=
  replay? stepVersion AcceptsVersion (setup, initializeService setup defaults launch) inputs

/-! ## What the headers should tell -/

def firstAttemptAfter (first : Option PingRequest) : OmahaOutput Url → Option PingRequest
  | .pinged request _ => if request.isInstallEvent then first.or (some request) else first
  | .succeeded => none
  | .upgradeRecommended _ => first

/-- Something holds of every ping and the first attempt to send its event. -/
def Throughout (Holds : Option PingRequest → PingRequest → Prop) :
    Option PingRequest → List (OmahaOutput Url) → Prop
  | _, [] => True
  | first, .pinged request waitsUntil :: rest =>
    Holds first request ∧
      Throughout Holds (firstAttemptAfter first (.pinged request waitsUntil : OmahaOutput Url)) rest
  | _, .succeeded :: rest => Throughout Holds none rest
  | first, .upgradeRecommended _ :: rest => Throughout Holds first rest

def TellsAge (first : Option PingRequest) (request : PingRequest) : Prop :=
  ∀ age ∈ request.requestAge, ∃ attempt ∈ first,
    age = secondsFrom attempt.time request.time ∧ 0 ≤ age

def FoundInTime (first : Option PingRequest) (request : PingRequest) : Prop :=
  request.isRetry = true → ∀ attempt ∈ first,
    secondsFrom attempt.currentPingTime request.time = secondsFrom attempt.time request.time

variable {Holds Other : Option PingRequest → PingRequest → Prop} {first : Option PingRequest}
variable {log more emitted : List (OmahaOutput Url)}

theorem throughout_append : Throughout Holds first (log ++ more) ↔
    Throughout Holds first log ∧ Throughout Holds (log.foldl firstAttemptAfter first) more := by
  induction log generalizing first with
  | nil => simp [Throughout]
  | cons output _ ih =>
    cases output <;> simp [Throughout, firstAttemptAfter, ih, and_assoc]

/-- Recommendations tell nothing of the event that is tried. -/
theorem foldl_recommended (recommended : List (UpgradeRecommendedDetails Url)) :
    (recommended.map OmahaOutput.upgradeRecommended).foldl firstAttemptAfter first = first := by
  induction recommended with
  | nil => rfl
  | cons _ _ ih => exact ih

theorem throughout_recommended (recommended : List (UpgradeRecommendedDetails Url)) :
    Throughout Holds first (recommended.map OmahaOutput.upgradeRecommended) := by
  induction recommended with
  | nil => trivial
  | cons _ _ ih => exact ih

/-- No event is tried when a ping has succeeded. -/
theorem throughout_succeeded (recommended : List (UpgradeRecommendedDetails Url)) :
    Throughout Holds first (.succeeded :: log ++ recommended.map .upgradeRecommended) ↔
      Throughout Holds none log := by
  rw [List.cons_append, Throughout, throughout_append]
  exact and_iff_left (throughout_recommended recommended)

/-! ## The time of the current ping -/

variable {setup : OmahaSetup Version Url} {service after : OmahaService Version}

/-- As long as an event waits to be acknowledged the time of the current ping stays what its
first attempt has found; before the first attempt there is nothing to retry. -/
structure Tracks (setup : OmahaSetup Version Url) (first : Option PingRequest) (latest : Int)
    (service : OmahaService Version) : Prop where
  stored : service.defaults.currentPingTime = service.currentPingTime
  version : service.defaults.lastSentVersion.getD setup.defaultLastSentVersion =
    service.lastSentVersion
  attempted : ∀ attempt ∈ first, service.defaults.hasRetryRequestId = true ∧
    attempt.currentPingTime = service.currentPingTime ∧ attempt.time ≤ latest
  untried : first = none →
    service.defaults.hasRetryRequestId = true ∨ service.lastSentVersion < setup.currentVersion →
      service.numberOfTries = 0 ∧ service.defaults.numberOfTries = 0

variable {latest now : Int} {backOff : BackOff}

theorem Tracks.mono {later : Int} (tracks : Tracks setup first latest service)
    (ordered : latest ≤ later) : Tracks setup first later service where
  stored := tracks.stored
  version := tracks.version
  attempted attempt mem := by
    obtain ⟨retried, found, early⟩ := tracks.attempted attempt mem
    exact ⟨retried, found, Int.le_trans early ordered⟩
  untried := tracks.untried

theorem Tracks.of_same (tracks : Tracks setup first latest service)
    (defaults : after.defaults = service.defaults)
    (currentPingTime : after.currentPingTime = service.currentPingTime)
    (lastSentVersion : after.lastSentVersion = service.lastSentVersion)
    (numberOfTries : after.numberOfTries = service.numberOfTries) :
    Tracks setup first latest after := by
  obtain ⟨_, _, _, _⟩ := tracks
  constructor
  · rwa [defaults, currentPingTime]
  · rwa [defaults, lastSentVersion]
  · rwa [defaults, currentPingTime]
  · rwa [defaults, lastSentVersion, numberOfTries]

structure Tried (setup : OmahaSetup Version Url) (first : Option PingRequest)
    (emitted : List (OmahaOutput Url)) (latest : Int) (service after : OmahaService Version) :
    Prop where
  tracks : Tracks setup (emitted.foldl firstAttemptAfter first) latest after
  clock : after.clock = service.clock
  ages : Throughout TellsAge first emitted ↔ Throughout FoundInTime first emitted

/-- The age is that of the first attempt if the time of the current ping is as old. -/
theorem Tracks.tellsAge_iff (tracks : Tracks setup first latest service) (ordered : latest ≤ now)
    (isInstallEvent : Bool) :
    TellsAge first (service.pingRequest now isInstallEvent) ↔
      FoundInTime first (service.pingRequest now isInstallEvent) := by
  unfold TellsAge FoundInTime pingRequest
  dsimp only
  cases retry : service.notifiesServer with
  | false => simp
  | true =>
    obtain ⟨tries, stored⟩ : service.numberOfTries ≠ 0 ∧
        service.defaults.hasRetryRequestId = true := by
      simpa [notifiesServer, isNextPingInstallRetry] using retry
    cases attempts : first with
    | none => exact absurd (tracks.untried attempts (.inl stored)).1 tries
    | some attempt =>
      obtain ⟨-, found, early⟩ := tracks.attempted attempt attempts
      have nonneg : 0 ≤ secondsFrom attempt.time now :=
        Int.tdiv_nonneg (by omega) (by decide)
      simp only [if_true, Option.mem_def, Option.some_inj, forall_eq', found, forall_const,
        exists_eq_left']
      omega

/-- What a ping leaves, and what the content of a ping asserts. -/
structure Sent (setup : OmahaSetup Version Url) (service after : OmahaService Version) : Prop where
  clock : after.clock = service.clock
  asserted : service.lastSentVersion < setup.currentVersion ∨
    service.defaults.hasRetryRequestId = false
  stored : after.defaults.currentPingTime = after.currentPingTime
  currentPingTime : after.currentPingTime = service.currentPingTime
  lastSentVersion : after.lastSentVersion = service.lastSentVersion
  version : after.defaults.lastSentVersion = some service.lastSentVersion
  sendingInstallEvent : after.sendingInstallEvent = true ↔
    service.lastSentVersion < setup.currentVersion
  hasRetryRequestId : after.defaults.hasRetryRequestId = true ↔
    service.defaults.hasRetryRequestId = true ∨ service.lastSentVersion < setup.currentVersion

theorem sent_of_sendPing (valid : setup.updateServerIsValid = true)
    (pinged : service.sendPing setup now backOff = some (after, emitted)) :
    Sent setup service after ∧ ∃ waitsUntil,
      emitted = [.pinged (service.pingRequest now after.sendingInstallEvent) waitsUntil] := by
  obtain ⟨-, pinged⟩ := dcheck_bind_eq_some.mp pinged
  rw [if_neg (by simp [valid])] at pinged
  obtain ⟨_, content, result⟩ := Option.map_eq_some_iff.mp pinged
  cases result
  obtain ⟨_, checked, result⟩ := Option.map_eq_some_iff.mp content
  cases result
  have asserted := dcheck_eq_some.mp checked
  refine ⟨?_, _, rfl⟩
  exact {
    clock := rfl
    asserted := asserted.imp_left of_decide_eq_true
    stored := rfl
    currentPingTime := rfl
    lastSentVersion := rfl
    version := rfl
    sendingInstallEvent := decide_eq_true_iff
    hasRetryRequestId := by
      rw [Bool.or_eq_true, decide_eq_true_iff]
      rfl }

/-- The first attempt after a ping, which is an attempt if an event is sent. -/
theorem Sent.tracks (sent : Sent setup service after) (tracks : Tracks setup first latest service)
    (ordered : latest ≤ now) (waitsUntil : Int) :
    let ping : OmahaOutput Url :=
      .pinged (service.pingRequest now after.sendingInstallEvent) waitsUntil
    Tracks setup (firstAttemptAfter first ping) now after := by
  have whether : (service.pingRequest now after.sendingInstallEvent).isInstallEvent = true ↔
      service.lastSentVersion < setup.currentVersion := sent.sendingInstallEvent
  have known : after.defaults.lastSentVersion.getD setup.defaultLastSentVersion =
      after.lastSentVersion := by
    simp [sent.version, sent.lastSentVersion]
  unfold firstAttemptAfter
  dsimp only
  by_cases changed : service.lastSentVersion < setup.currentVersion
  · rw [if_pos (whether.mpr changed)]
    refine ⟨sent.stored, known, ?_, fun none => ?_⟩
    · intro attempt mem
      refine ⟨sent.hasRetryRequestId.mpr (.inr changed), ?_⟩
      rw [sent.currentPingTime]
      rcases Option.or_eq_some_iff.mp mem with earlier | ⟨-, same⟩
      · obtain ⟨-, found, early⟩ := tracks.attempted attempt earlier
        exact ⟨found, Int.le_trans early ordered⟩
      · cases same
        exact ⟨rfl, Int.le_refl _⟩
    · simp at none
  · rw [if_neg (fun isEvent => changed (whether.mp isEvent))]
    have noId := sent.asserted.resolve_left changed
    refine ⟨sent.stored, known, ?_, fun _ retried => ?_⟩
    · intro attempt mem
      cases noId.symm.trans (tracks.attempted attempt mem).1
    · simp [sent.hasRetryRequestId, sent.lastSentVersion, noId, changed] at retried

theorem Tracks.sendPing (tracks : Tracks setup first latest service) (ordered : latest ≤ now)
    (sent : service.sendPing setup now backOff = some (after, emitted)) :
    Tried setup first emitted now service after := by
  cases valid : setup.updateServerIsValid with
  | false =>
    obtain ⟨-, sent⟩ := dcheck_bind_eq_some.mp sent
    rw [if_pos valid] at sent
    cases sent
    exact ⟨tracks.mono ordered, rfl, Iff.rfl⟩
  | true =>
    obtain ⟨pinged, waitsUntil, rfl⟩ := sent_of_sendPing valid sent
    refine ⟨pinged.tracks tracks ordered waitsUntil, pinged.clock, ?_⟩
    exact and_congr_left fun _ => tracks.tellsAge_iff ordered _

theorem Tracks.sendOrScheduleNextPing {later : Int}
    (tracks : Tracks setup first latest service) (ordered : latest ≤ later)
    (sent : service.sendOrScheduleNextPing setup now later backOff = some (after, emitted)) :
    Tried setup first emitted later service after := by
  unfold OmahaService.sendOrScheduleNextPing at sent
  split at sent
  · exact tracks.sendPing ordered sent
  · split at sent <;> cases sent <;>
      exact ⟨(tracks.mono ordered).of_same rfl rfl rfl rfl, rfl, Iff.rfl⟩

/-! ## Steps -/

/-- An acknowledged ping leaves no event to be tried again. -/
theorem succeed_tracks (setup : OmahaSetup Version Url) (service : OmahaService Version)
    (now later latest : Int) : Tracks setup none latest (service.succeed setup now later) where
  stored := rfl
  version := rfl
  attempted := nofun
  untried _ retried := by
    rcases retried with stored | changed
    · cases stored
    · exact absurd changed (lt_irrefl _)

theorem Tracks.onURLLoadComplete {response : Option (Bool × List StartElement)}
    {readings : Readings} (tracks : Tracks setup first latest service)
    (ordered : latest ≤ readings.first)
    (completed : service.onURLLoadComplete setup response readings backOff =
      some (after, emitted)) :
    Tried setup first emitted readings.fourth service after := by
  have failed : ∀ {after : OmahaService Version} {emitted : List (OmahaOutput Url)},
      OmahaService.sendOrScheduleNextPing setup { service with loading := false }
        readings.first readings.second backOff = some (after, emitted) →
      Tried setup first emitted readings.fourth service after := by
    intro after emitted sent
    have entered : Tracks setup first latest { service with loading := false } :=
      tracks.of_same rfl rfl rfl rfl
    have tried := entered.sendOrScheduleNextPing
      (Int.le_trans ordered readings.first_le) sent
    exact ⟨tried.tracks.mono (Int.le_trans readings.second_le readings.third_le), tried.clock,
      tried.ages⟩
  unfold OmahaService.onURLLoadComplete at completed
  split at completed
  · exact failed completed
  · next wellFormed elements =>
      obtain ⟨parser, -, completed⟩ := Option.bind_eq_some_iff.mp completed
      split at completed
      · exact failed completed
      · obtain ⟨⟨_, _⟩, pinged, result⟩ := Option.map_eq_some_iff.mp completed
        cases result
        have acknowledged := succeed_tracks setup { service with loading := false } readings.first
          readings.second readings.third
        have tried := acknowledged.sendOrScheduleNextPing readings.third_le pinged
        refine ⟨?_, tried.clock, ?_⟩
        · rw [List.cons_append, List.foldl_cons, List.foldl_append, foldl_recommended]
          exact tried.tracks
        · rw [throughout_succeeded, throughout_succeeded]
          exact tried.ages

/-- A new process reads what the one before it has stored. -/
theorem initializeService_tries (setup : OmahaSetup Version Url)
    (defaults : OmahaDefaults Version) (readings : Readings) :
    let service := initializeService setup defaults readings
    service.clock = readings.fourth ∧ service.currentPingTime = defaults.currentPingTime ∧
      service.defaults.currentPingTime = defaults.currentPingTime ∧
      service.defaults.hasRetryRequestId = defaults.hasRetryRequestId ∧
      (service.lastSentVersion < setup.currentVersion ∨ defaults.numberOfTries = 0 →
        service.numberOfTries = 0 ∧ service.defaults.numberOfTries = 0) := by
  unfold initializeService persistStates
  grind

/-- A new process, of the same or another version, goes on with the event that is tried. -/
theorem Tracks.initializeService {other : OmahaSetup Version Url} {readings : Readings}
    (tracks : Tracks setup first latest service) (ordered : latest ≤ readings.first) :
    let after := initializeService other service.defaults readings
    Tracks other first after.clock after := by
  obtain ⟨consistent, -⟩ := initializeService_consistent other service.defaults readings
  obtain ⟨clock, held, stored, retry, tries⟩ :=
    initializeService_tries other service.defaults readings
  refine ⟨stored.trans held.symm, consistent.version, ?_, fun none retried => tries ?_⟩
  · intro attempt mem
    obtain ⟨retried, found, early⟩ := tracks.attempted attempt mem
    refine ⟨retry.trans retried, found.trans (tracks.stored.symm.trans held.symm), ?_⟩
    have := readings.first_le
    have := readings.second_le
    have := readings.third_le
    omega
  · rcases retried with storedId | changed
    · exact .inr (tracks.untried none (.inl (retry.symm.trans storedId))).2
    · exact .inl changed

/-- The debug information asks for the content of a ping, which may keep an id for an event that
has not been tried. -/
theorem Tracks.getCurrentPingContent (tracks : Tracks setup first latest service)
    (returned : service.getCurrentPingContent setup = some after) :
    Tracks setup first latest after := by
  obtain ⟨_, -, result⟩ := Option.map_eq_some_iff.mp returned
  cases result
  refine ⟨tracks.stored, tracks.version, ?_, fun none retried => tracks.untried none ?_⟩
  · intro attempt mem
    obtain ⟨retried, found, early⟩ := tracks.attempted attempt mem
    refine ⟨?_, found, early⟩
    exact Bool.or_eq_true_iff.mpr (.inl retried)
  · simpa using retried

/-- Every call goes on with the event that is tried, and the ages it tells are right if the event
was found in time. -/
theorem Tracks.step {input : OmahaInput}
    (tracks : Tracks setup first service.clock service) (accepted : service.Accepts input)
    (stepped : service.step setup input = some (after, emitted)) :
    Tracks setup (emitted.foldl firstAttemptAfter first) after.clock after ∧
      (Throughout TellsAge first emitted ↔ Throughout FoundInTime first emitted) := by
  have entered : ∀ {readings : Readings} {last : Int} {entering : OmahaService Version},
      entering.clock = readings.fourth → last ≤ readings.fourth →
      Tried setup first emitted last entering after →
      Tracks setup (emitted.foldl firstAttemptAfter first) after.clock after ∧
        (Throughout TellsAge first emitted ↔ Throughout FoundInTime first emitted) := by
    intro readings last entering clock ordered tried
    have latest : last ≤ after.clock := by
      rw [tried.clock, clock]
      exact ordered
    exact ⟨tried.tracks.mono latest, tried.ages⟩
  cases input with
  | start readings _ =>
    have started : Tracks setup first service.clock
        { service with started := true, clock := readings.fourth } := tracks.of_same rfl rfl rfl rfl
    have tried := started.sendOrScheduleNextPing
      (Int.le_trans accepted.2 readings.first_le) stepped
    exact entered rfl (Int.le_trans readings.second_le readings.third_le) tried
  | timerFired readings _ =>
    have fired : Tracks setup first service.clock
        { service with timer := none, clock := readings.fourth } := tracks.of_same rfl rfl rfl rfl
    have ordered : readings.first ≤ readings.fourth :=
      by grind [readings.first_le, readings.second_le, readings.third_le]
    exact entered rfl ordered (fired.sendPing accepted.2 stepped)
  | loadComplete _ readings _ =>
    have loaded : Tracks setup first service.clock { service with clock := readings.fourth } :=
      tracks.of_same rfl rfl rfl rfl
    exact entered rfl (Int.le_refl _) (loaded.onURLLoadComplete accepted.2 stepped)
  | debugInformation =>
    obtain ⟨_, content, result⟩ := Option.map_eq_some_iff.mp stepped
    cases result
    have clock : after.clock = service.clock := by
      obtain ⟨_, _, rfl⟩ := getCurrentPingContent_eq_some content
      rfl
    exact ⟨clock ▸ tracks.getCurrentPingContent content, Iff.rfl⟩
  | restart _ =>
    cases stepped
    exact ⟨tracks.initializeService accepted, Iff.rfl⟩

/-! ## Runs -/

/-- Before the first ping of a service that owes no event there is nothing to retry. -/
theorem initializeService_tracks (fresh : defaults.hasRetryRequestId = false) (launch : Readings) :
    let service := initializeService setup defaults launch
    Tracks setup none service.clock service := by
  obtain ⟨consistent, -⟩ := initializeService_consistent setup defaults launch
  obtain ⟨-, held, stored, retry, tries⟩ := initializeService_tries setup defaults launch
  refine ⟨stored.trans held.symm, consistent.version, nofun, fun _ retried => tries (.inl ?_)⟩
  apply retried.resolve_left
  simp [retry, fresh]

/-- A step of a version, or the next version, goes on with the event that is tried. -/
theorem Tracks.stepVersion {next : OmahaSetup Version Url × OmahaService Version}
    {input : VersionInput Version Url} (tracks : Tracks state.1 first state.2.clock state.2)
    (accepted : AcceptsVersion state input)
    (stepped : stepVersion state input = some (next, emitted)) :
    Tracks next.1 (emitted.foldl firstAttemptAfter first) next.2.clock next.2 ∧
      (Throughout TellsAge first emitted ↔ Throughout FoundInTime first emitted) := by
  cases input with
  | call _ =>
    obtain ⟨⟨_, _⟩, called, result⟩ := Option.map_eq_some_iff.mp stepped
    cases result
    exact tracks.step accepted called
  | update _ _ =>
    cases stepped
    exact ⟨tracks.initializeService accepted, Iff.rfl⟩

theorem runVersions_tracks {launch : Readings} {inputs : List (VersionInput Version Url)}
    (fresh : defaults.hasRetryRequestId = false)
    (reached : runVersions setup defaults launch inputs = some (state, log)) :
    Tracks state.1 (log.foldl firstAttemptAfter none) state.2.clock state.2 ∧
      (Throughout TellsAge none log ↔ Throughout FoundInTime none log) := by
  induction inputs using List.reverseRecOn generalizing state log with
  | nil =>
    cases reached
    exact ⟨initializeService_tracks fresh launch, Iff.rfl⟩
  | append_singleton _ _ ih =>
    obtain ⟨_, _, _, earlier, accepted, stepped, rfl⟩ :=
      replay?_concat_eq_some reached
    obtain ⟨tracks, ages⟩ := ih earlier
    obtain ⟨following, next⟩ := tracks.stepVersion accepted stepped
    simp [throughout_append, following, ages, next]

/-- The headers tell the seconds since the first attempts exactly when every retry comes as many
seconds after the time of the current ping that the first attempt has found. -/
theorem tellsAge_iff_foundInTime {defaults : OmahaDefaults Version} {launch : Readings}
    {inputs : List (VersionInput Version Url)}
    {state : OmahaSetup Version Url × OmahaService Version}
    (fresh : defaults.hasRetryRequestId = false)
    (reached : runVersions setup defaults launch inputs = some (state, log)) :
    Throughout TellsAge none log ↔ Throughout FoundInTime none log :=
  (runVersions_tracks fresh reached).2

/-! ## The hour of an update -/

def acknowledgedBefore : OmahaDefaults Nat := { afterSuccess with lastSentVersion := some 69 }

/-- A new version is started, its event fails and is sent again an hour later. -/
def retriedOnce (hour : Int) : List (VersionInput Nat String) :=
  [.call (.start (atHour hour) withoutJitter),
    .call (.loadComplete none (atHour hour) withoutJitter),
    .call (.timerFired (atHour (hour + 1)) withoutJitter)]

def sentTwice (hour : Int) : List (OmahaOutput String) :=
  [.pinged {
      time := hours hour, isInstallEvent := true, isRetry := false, requestAge := none,
      currentPingTime := hours 5 } (hours (hour + 1)),
    .pinged {
      time := hours (hour + 1), isInstallEvent := true, isRetry := true,
      requestAge := some (3600 * (hour - 4)), currentPingTime := hours 5 } (hours (hour + 3))]

/-- The age is right if the new version is started when the next ping was due. -/
theorem tellsAge_iff_foundInTime_retriedOnce : ∃ state,
    runVersions acknowledgedVersion acknowledgedBefore (atHour 5) (retriedOnce 5) =
        some (state, sentTwice 5) ∧
      Throughout TellsAge none (sentTwice 5) := by
  have reached : ∃ state,
      runVersions acknowledgedVersion acknowledgedBefore (atHour 5) (retriedOnce 5) =
        some (state, sentTwice 5) := ⟨_, rfl⟩
  obtain ⟨state, reached⟩ := reached
  refine ⟨state, reached, (tellsAge_iff_foundInTime rfl reached).mpr ⟨nofun, ?_, trivial⟩⟩
  rintro - attempt ⟨⟩
  rfl

/-- An event that fails two hours after a ping was acknowledged has a negative age when it is
sent again. -/
theorem not_tellsAge_retriedOnce : ∃ state,
    runVersions acknowledgedVersion acknowledgedBefore (atHour 2) (retriedOnce 2) =
        some (state, sentTwice 2) ∧
      ¬ Throughout TellsAge none (sentTwice 2) := by
  refine ⟨_, rfl, ?_⟩
  simp [Throughout, TellsAge, sentTwice]

end OmahaService

end ChromiumIos
