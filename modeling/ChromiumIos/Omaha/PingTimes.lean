import ChromiumIos.Omaha.OmahaService

/-!
# When pings are sent

A ping that has failed keeps the next one waiting until a time that is stored with it.
The service that stays in its process keeps to this time.  A new process looks at the
stored time again and may move it: a time that is more hours away than two successful
pings are is taken for the work of a clock that was set back, although the waits grow
longer than that, and a version that was never acknowledged is pinged for at once.
-/

namespace ChromiumIos

open Lib

namespace OmahaService

variable {Version Url : Type}

/-! ## What a log tells -/

/-- The time until which a ping keeps the next one waiting as long as it has not succeeded. -/
def backOffAfter (owed : Option Int) : OmahaOutput Url → Option Int
  | .pinged _ waitsUntil => some waitsUntil
  | .succeeded => none
  | .upgradeRecommended _ => owed

def owedBackOff (log : List (OmahaOutput Url)) : Option Int := log.foldl backOffAfter none

def WaitsFrom (owed : Option Int) : List (OmahaOutput Url) → Prop
  | [] => True
  | .pinged request waitsUntil :: rest =>
    (∀ due ∈ owed, due ≤ request.time) ∧ WaitsFrom (some waitsUntil) rest
  | .succeeded :: rest => WaitsFrom none rest
  | .upgradeRecommended _ :: rest => WaitsFrom owed rest

theorem waitsFrom_append {owed : Option Int} {log more : List (OmahaOutput Url)} :
    WaitsFrom owed (log ++ more) ↔
      WaitsFrom owed log ∧ WaitsFrom (log.foldl backOffAfter owed) more := by
  induction log generalizing owed with
  | nil => simp [WaitsFrom]
  | cons output _ ih =>
    cases output <;> simp [WaitsFrom, backOffAfter, ih, and_assoc]

/-- Recommendations do not change what is owed. -/
theorem foldl_upgradeRecommended (owed : Option Int)
    (recommended : List (UpgradeRecommendedDetails Url)) :
    (recommended.map OmahaOutput.upgradeRecommended).foldl backOffAfter owed = owed ∧
      WaitsFrom owed (recommended.map OmahaOutput.upgradeRecommended) := by
  induction recommended with
  | nil => exact ⟨rfl, trivial⟩
  | cons _ _ ih => exact ih

variable [LinearOrder Version] {setup : OmahaSetup Version Url}
variable {service after : OmahaService Version} {emitted : List (OmahaOutput Url)}
variable {owed : Option Int}

/-! ## Steps -/

/-- The service and its defaults agree, and the timer runs between the loads of a process. -/
structure Consistent (setup : OmahaSetup Version Url) (service : OmahaService Version) : Prop where
  stored : service.defaults.nextTriesTime = service.nextTriesTime
  version : service.defaults.lastSentVersion.getD setup.defaultLastSentVersion =
    service.lastSentVersion
  timer : ∀ due ∈ service.timer, due = service.nextTriesTime ∧ service.started = true ∧
    service.loading = false
  running : service.loading = true → service.started = true

/-- The service knows the time that is owed; it is moved only for a version that was never
acknowledged. -/
def Keeps (setup : OmahaSetup Version Url) (owed : Option Int) (service : OmahaService Version) :
    Prop :=
  ∀ due ∈ owed, due ≤ service.nextTriesTime ∧
    (¬ service.lastSentVersion < setup.currentVersion → due = service.nextTriesTime)

/-- What the calls of the service do while its process runs. -/
structure Advances (setup : OmahaSetup Version Url) (owed : Option Int)
    (emitted : List (OmahaOutput Url)) (after : OmahaService Version) : Prop where
  consistent : Consistent setup after
  keeps : Keeps setup (emitted.foldl backOffAfter owed) after
  waits : WaitsFrom owed emitted

theorem getCurrentPingContent_eq_some
    (returned : service.getCurrentPingContent setup = some after) :
    ∃ retry sending, after = { service with
      sendingInstallEvent := sending
      defaults := { service.defaults with hasRetryRequestId := retry } } := by
  obtain ⟨checked, -, result⟩ := Option.map_eq_some_iff.mp returned
  grind

variable {now : Int} {backOff : BackOff}

theorem sendPing_advances (consistent : Consistent setup service) (untimed : service.timer = none)
    (started : service.started = true) (keeps : Keeps setup owed service)
    (due : ∀ due ∈ owed, due ≤ now)
    (sent : service.sendPing setup now backOff = some (after, emitted)) :
    Advances setup owed emitted after := by
  obtain ⟨-, sent⟩ := dcheck_bind_eq_some.mp sent
  split at sent
  · cases sent
    exact ⟨consistent, keeps, trivial⟩
  · obtain ⟨_, content, result⟩ := Option.map_eq_some_iff.mp sent
    cases result
    obtain ⟨_, _, rfl⟩ := getCurrentPingContent_eq_some content
    refine ⟨⟨rfl, rfl, ?_, fun _ => started⟩, ?_, due, trivial⟩
    · intro time timed
      cases untimed.symm.trans timed
    · simp [Keeps, backOffAfter, persistStates]

theorem sendOrScheduleNextPing_advances {later : Int} (consistent : Consistent setup service)
    (untimed : service.timer = none) (started : service.started = true)
    (idle : service.loading = false) (keeps : Keeps setup owed service) (ordered : now ≤ later)
    (sent : service.sendOrScheduleNextPing setup now later backOff = some (after, emitted)) :
    Advances setup owed emitted after := by
  unfold sendOrScheduleNextPing at sent
  split at sent
  · next reached =>
      refine sendPing_advances consistent untimed started keeps (fun due mem => ?_) sent
      exact Int.le_trans (keeps due mem).1 (Int.le_trans reached ordered)
  split at sent
  · cases sent
    refine ⟨⟨consistent.stored, consistent.version, ?_, consistent.running⟩, keeps, trivial⟩
    simp [started, idle]
  · cases sent
    exact ⟨consistent, keeps, trivial⟩

theorem onURLLoadComplete_advances {response : Option (Bool × List StartElement)}
    {readings : Readings} (consistent : Consistent setup service)
    (loading : service.loading = true) (keeps : Keeps setup owed service)
    (completed : service.onURLLoadComplete setup response readings backOff =
      some (after, emitted)) : Advances setup owed emitted after := by
  have untimed : service.timer = none := by
    cases timed : service.timer with
    | none => rfl
    | some due => cases (consistent.timer due timed).2.2.symm.trans loading
  have started := consistent.running loading
  have ended : Consistent setup { service with loading := false } :=
    ⟨consistent.stored, consistent.version, fun due timed => (by cases untimed.symm.trans timed),
      nofun⟩
  have failed : ∀ {after : OmahaService Version} {emitted : List (OmahaOutput Url)},
      sendOrScheduleNextPing setup { service with loading := false } readings.first
        readings.second backOff = some (after, emitted) → Advances setup owed emitted after :=
    fun sent => sendOrScheduleNextPing_advances ended untimed started rfl keeps
      readings.first_le sent
  unfold onURLLoadComplete at completed
  dsimp only at completed
  split at completed
  · exact failed completed
  · next wellFormed elements =>
      obtain ⟨parser, -, completed⟩ := Option.bind_eq_some_iff.mp completed
      split at completed
      · exact failed completed
      · obtain ⟨⟨last, told⟩, sent, result⟩ := Option.map_eq_some_iff.mp completed
        cases result
        have fresh : Consistent setup (succeed setup { service with loading := false }
            readings.first readings.second) :=
          ⟨rfl, rfl, fun due timed => (by cases untimed.symm.trans timed), nofun⟩
        have nothing : Keeps setup none (succeed setup { service with loading := false }
            readings.first readings.second) := fun due owed => by cases owed
        obtain ⟨consistentLast, keepsLast, waitsLast⟩ :=
          sendOrScheduleNextPing_advances fresh untimed started rfl nothing
            readings.third_le sent
        have silent := foldl_upgradeRecommended (told.foldl backOffAfter none)
          parser.upgradeRecommendedDetails.toList
        refine ⟨consistentLast, ?_, ?_⟩
        · grind [backOffAfter]
        · exact waitsFrom_append.mpr ⟨waitsLast, silent.2⟩

/-! ## A new process -/

/-- The time of the next ping in a new process. -/
theorem initializeService_nextTriesTime (setup : OmahaSetup Version Url)
    (defaults : OmahaDefaults Version) (readings : Readings) :
    (initializeService setup defaults readings).nextTriesTime =
      if defaults.lastSentVersion.getD setup.defaultLastSentVersion < setup.currentVersion then
        readings.second - oneSecond
      else if defaults.nextTriesTime - readings.first > kHoursBetweenRequests then
        min defaults.lastSentTime readings.first + kHoursBetweenRequests
      else defaults.nextTriesTime := by
  unfold initializeService persistStates
  grind

theorem initializeService_consistent (setup : OmahaSetup Version Url)
    (defaults : OmahaDefaults Version) (readings : Readings) :
    Consistent setup (initializeService setup defaults readings) ∧
      (initializeService setup defaults readings).lastSentVersion =
        defaults.lastSentVersion.getD setup.defaultLastSentVersion := by
  unfold initializeService persistStates
  dsimp only
  by_cases future : defaults.lastSentTime > readings.first <;>
    by_cases far : defaults.nextTriesTime - readings.first > kHoursBetweenRequests <;>
    by_cases changed :
      defaults.lastSentVersion.getD setup.defaultLastSentVersion < setup.currentVersion
  all_goals
    simp only [future, far, changed, if_true, if_false, or_true, or_false]
  all_goals
    exact ⟨⟨rfl, rfl, fun _ timed => (by cases timed), fun loading => by cases loading⟩,
      by trivial⟩

/-- A new process finds a time that is owed where the one before it has left it. -/
def InTime (setup : OmahaSetup Version Url) (owed : Option Int) (service : OmahaService Version) :
    OmahaInput → Prop
  | .restart readings => ∀ due ∈ owed,
      if service.lastSentVersion < setup.currentVersion then due ≤ readings.second - oneSecond
      else due - readings.first ≤ kHoursBetweenRequests
  | _ => True

/-- A new process keeps to the time that is owed exactly if that is not more than five hours away,
or, for a version that was never acknowledged, if it is over. -/
theorem restart_keeps_iff (readings : Readings) (consistent : Consistent setup service)
    (keeps : Keeps setup owed service) :
    ((∀ due ∈ owed,
        due ≤ (initializeService setup service.defaults readings).nextTriesTime) →
        InTime setup owed service (.restart readings)) ∧
      (InTime setup owed service (.restart readings) →
        Keeps setup owed (initializeService setup service.defaults readings)) := by
  obtain ⟨-, version⟩ := initializeService_consistent setup service.defaults readings
  have next := initializeService_nextTriesTime setup service.defaults readings
  rw [consistent.version] at version next
  rw [consistent.stored] at next
  constructor
  · intro kept due mem
    grind
  · intro inTime due mem
    have time := inTime due mem
    rw [next, version]
    split at time
    · next changed =>
        simp [changed, time]
    · next same =>
        have stays := (keeps due mem).2 same
        grind

/-! ## Runs -/

def KeepsBackOff (setup : OmahaSetup Version Url) (defaults : OmahaDefaults Version)
    (launch : Readings) (inputs : List OmahaInput) : Prop :=
  ∀ before service log, before <+: inputs →
    run setup defaults launch before = some (service, log) →
      (∀ due ∈ owedBackOff log, due ≤ service.nextTriesTime) ∧ WaitsFrom none log

/-- No new process finds a time that is owed so that it moves it. -/
def RestartsInTime (setup : OmahaSetup Version Url) (defaults : OmahaDefaults Version)
    (launch : Readings) (inputs : List OmahaInput) : Prop :=
  ∀ before input service log, before ++ [input] <+: inputs →
    run setup defaults launch before = some (service, log) → service.Accepts input →
      InTime setup (owedBackOff log) service input

/-- Every input but a new process keeps to the time owed, and a new process does if it comes in
time. -/
theorem step_keeps {input : OmahaInput} (consistent : Consistent setup service)
    (keeps : Keeps setup owed service) (accepted : service.Accepts input)
    (stepped : service.step setup input = some (after, emitted)) :
    Consistent setup after ∧
      (InTime setup owed service input → Advances setup owed emitted after) ∧
      ((∀ due ∈ emitted.foldl backOffAfter owed, due ≤ after.nextTriesTime) →
        InTime setup owed service input) := by
  have advanced : Advances setup owed emitted after → (input matches .restart _) = false →
      Consistent setup after ∧
        (InTime setup owed service input → Advances setup owed emitted after) ∧
        ((∀ due ∈ emitted.foldl backOffAfter owed, due ≤ after.nextTriesTime) →
          InTime setup owed service input) := by
    intro advances running
    refine ⟨advances.consistent, fun _ => advances, fun _ => ?_⟩
    cases input <;> grind [InTime]
  cases input with
  | start readings _ =>
    have untimed : service.timer = none := by
      cases timed : service.timer with
      | none => rfl
      | some due => cases (consistent.timer due timed).2.1.symm.trans accepted.1
    have idle : service.loading = false := by
      cases loading : service.loading with
      | false => rfl
      | true => cases (consistent.running loading).symm.trans accepted.1
    have entered : Consistent setup
        { service with started := true, clock := readings.fourth } :=
      ⟨consistent.stored, consistent.version,
        fun due timed => (by cases untimed.symm.trans timed), fun _ => rfl⟩
    have owes : Keeps setup owed { service with started := true, clock := readings.fourth } :=
      keeps
    exact advanced (sendOrScheduleNextPing_advances entered untimed rfl idle owes
      readings.first_le stepped) rfl
  | timerFired readings _ =>
    obtain ⟨due, timed, reached⟩ := accepted.1
    obtain ⟨same, started, _⟩ := consistent.timer due timed
    have entered : Consistent setup { service with timer := none, clock := readings.fourth } :=
      ⟨consistent.stored, consistent.version, fun _ timed => (by cases timed),
        consistent.running⟩
    have owes : Keeps setup owed { service with timer := none, clock := readings.fourth } :=
      keeps
    have past : ∀ time ∈ owed, time ≤ readings.first := fun time mem =>
      Int.le_trans (keeps time mem).1 (same ▸ reached)
    exact advanced (sendPing_advances entered rfl started owes past stepped) rfl
  | loadComplete _ readings _ =>
    have entered : Consistent setup { service with clock := readings.fourth } :=
      ⟨consistent.stored, consistent.version, consistent.timer, consistent.running⟩
    have owes : Keeps setup owed { service with clock := readings.fourth } := keeps
    exact advanced (onURLLoadComplete_advances entered accepted.1 owes stepped) rfl
  | debugInformation =>
    obtain ⟨_, content, result⟩ := Option.map_eq_some_iff.mp stepped
    cases result
    obtain ⟨_, _, rfl⟩ := getCurrentPingContent_eq_some content
    exact advanced ⟨⟨consistent.stored, consistent.version, consistent.timer,
      consistent.running⟩, keeps, trivial⟩ rfl
  | restart readings =>
    cases stepped
    obtain ⟨fresh, -⟩ := initializeService_consistent setup service.defaults readings
    obtain ⟨late, kept⟩ := restart_keeps_iff readings consistent keeps
    exact ⟨fresh, fun inTime => ⟨fresh, kept inTime, trivial⟩, late⟩

/-- Either way the service keeps to the time that is owed. -/
theorem run_advances {defaults : OmahaDefaults Version} {launch : Readings}
    {inputs before : List OmahaInput} {log : List (OmahaOutput Url)}
    (known : KeepsBackOff setup defaults launch inputs ∨
      RestartsInTime setup defaults launch inputs)
    (within : before <+: inputs)
    (reached : run setup defaults launch before = some (service, log)) :
    Advances setup none log service := by
  induction before using List.reverseRecOn generalizing service log with
  | nil =>
    cases reached
    exact ⟨(initializeService_consistent setup defaults launch).1,
      fun _ owed => (by cases owed), trivial⟩
  | append_singleton before input ih =>
    obtain ⟨middle, told, emitted, earlier, accepted, stepped, rfl⟩ :=
      replay?_concat_eq_some reached
    have advances := ih ((List.prefix_append before [input]).trans within) earlier
    obtain ⟨-, next, late⟩ := step_keeps advances.consistent advances.keeps accepted stepped
    have inTime : InTime setup (owedBackOff told) middle input := by
      rcases known with keeps | restarts
      · have kept := (keeps _ _ _ within reached).1
        grind [owedBackOff]
      · exact restarts before input middle told within earlier accepted
    have following := next inTime
    refine ⟨following.consistent, ?_, waitsFrom_append.mpr ⟨advances.waits, following.waits⟩⟩
    simpa using following.keeps

/-- A failed ping keeps the next one waiting as long as it was computed to exactly when every new
process that comes after it comes in time. -/
theorem keepsBackOff_iff (setup : OmahaSetup Version Url) (defaults : OmahaDefaults Version)
    (launch : Readings) (inputs : List OmahaInput) :
    KeepsBackOff setup defaults launch inputs ↔ RestartsInTime setup defaults launch inputs := by
  constructor
  · intro keeps before input service log within reached accepted
    have advances := run_advances (.inl keeps)
      ((List.prefix_append before [input]).trans within) reached
    cases input with
    | start readings backOff | timerFired readings backOff
    | loadComplete response readings backOff | debugInformation => trivial
    | restart readings =>
      have stepped : service.step setup (.restart readings) = some (_, []) := rfl
      obtain ⟨-, -, late⟩ := step_keeps advances.consistent advances.keeps accepted stepped
      have kept := (keeps _ _ _ within (replay?_concat reached accepted stepped)).1
      rw [List.append_nil] at kept
      exact late kept
  · intro restarts before service log within reached
    have advances := run_advances (.inr restarts) within reached
    exact ⟨fun due mem => (advances.keeps due mem).1, advances.waits⟩

/-! ## The fourth failure -/

def withoutJitter : BackOff where
  delay := longestBackOff
  within numberOfTries := by
    grind [longestBackOff, kPostRetryBase, kPostRetryMax, hours]

/-- Readings at one time, in hours after a ping that has succeeded. -/
def atHour (hour : Int) : Readings where
  first := hours hour
  second := hours hour
  third := hours hour
  fourth := hours hour
  first_le := Int.le_refl _
  second_le := Int.le_refl _
  third_le := Int.le_refl _

def acknowledgedVersion : OmahaSetup Nat String where
  currentVersion := 70
  defaultLastSentVersion := 0
  updateServerIsValid := true
  schedule := true
  urls := ResponseParser.plainUrls
  appId := "app"

def afterSuccess : OmahaDefaults Nat where
  nextTriesTime := hours 5
  currentPingTime := hours 5
  numberOfTries := 0
  lastSentTime := 0
  lastSentVersion := some 70
  hasRetryRequestId := false

def failedFourTimes : List OmahaInput :=
  [.start (atHour 5) withoutJitter, .loadComplete none (atHour 5) withoutJitter,
    .timerFired (atHour 6) withoutJitter, .loadComplete none (atHour 6) withoutJitter,
    .timerFired (atHour 8) withoutJitter, .loadComplete none (atHour 8) withoutJitter,
    .timerFired (atHour 12) withoutJitter, .restart (atHour 12), .start (atHour 12) withoutJitter]

/-- The next ping is sent at once, and not six hours later. -/
theorem not_keepsBackOff_failedFourTimes :
    ¬ KeepsBackOff acknowledgedVersion afterSuccess (atHour 1) failedFourTimes := by
  intro keeps
  obtain ⟨⟨service, log⟩, reached, owed, time⟩ : ∃ result,
      run acknowledgedVersion afterSuccess (atHour 1) (failedFourTimes.take 8) = some result ∧
        owedBackOff result.2 = some (hours 18) ∧ result.1.nextTriesTime = hours 5 :=
    ⟨_, rfl, rfl, rfl⟩
  have late := (keeps _ service log (List.take_prefix _ _) reached).1 (hours 18) owed
  rw [time] at late
  exact absurd late (by decide)

end OmahaService

end ChromiumIos
