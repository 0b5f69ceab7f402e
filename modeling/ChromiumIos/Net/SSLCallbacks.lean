import ChromiumIos.Net.RequestsIndexed

/-!
# Callbacks of paused requests

Requests are started, stopped and hand in callbacks while pages come and go.  A callback is
answered in the step that it is handed in by when the request is still in the map of the tracker;
otherwise nobody keeps it.
-/

namespace ChromiumIos

open Lib TrackerCounts RequestTrackerImpl

/-- The tracker with the requests that were started and not stopped.  Callbacks are numbered in
the order in which they are handed in. -/
structure TrackedRequests where
  tracker : RequestTrackerImpl
  live : List Nat
  handedIn : Nat

inductive TrackerInput where
  | startRequest (request : URLRequest)
  | trimToURL (url : GURL)
  | stopRequest (request : URLRequest)
  | onSSLCertificateError (request : URLRequest) (sslInfo : Option SSLInfo)
  | captureCertificatePolicyCache (request : URLRequest)
  | allowCertForHost (cert : SHA256HashValue) (host : String) (error : CertStatus)
  | clearCertificatePolicies

namespace TrackedRequests

variable (env : TrackerEnvironment)

def initial (pageURL : GURL) (policyCache : CertificatePolicyCache) : TrackedRequests where
  tracker := .initial pageURL policyCache
  live := []
  handedIn := 0

variable (requests : TrackedRequests)

def counted (tracker : RequestTrackerImpl) : TrackedRequests :=
  { requests with tracker := tracker, handedIn := requests.handedIn + 1 }

def handIn (request : URLRequest) (sslInfo : Option SSLInfo)
    (decide : SSLCallback → Checked RequestTrackerImpl.Outcome) :
    Checked (TrackedRequests × List TrackerEvent) := do
  let (tracker, events) ← decide (.handed requests.handedIn)
  let allowed := sslInfo.any fun sslInfo =>
    Allows env requests.tracker.policyCache (env.host request.url) sslInfo
  some (requests.counted tracker, .handedIn requests.handedIn allowed :: events)

def step : TrackerInput →
    Checked (TrackedRequests × List TrackerEvent)
  | .startRequest request => do
      let tracker ← requests.tracker.startRequest env request
      some ({ requests with tracker := tracker, live := request.address :: requests.live }, [])
  | .trimToURL url => do
      let (tracker, events) ← requests.tracker.trimToURL env url
      some ({ requests with tracker := tracker }, events)
  | .stopRequest request => do
      let tracker ← requests.tracker.stopRequest request
      some ({ requests with
        tracker := tracker
        live := requests.live.filter fun address => address ≠ request.address }, [])
  | .onSSLCertificateError request sslInfo =>
    requests.handIn env request sslInfo
      (requests.tracker.onSSLCertificateError env request sslInfo true)
  | .captureCertificatePolicyCache request =>
    requests.handIn env request request.sslInfo
      (requests.tracker.captureCertificatePolicyCache env request)
  | .allowCertForHost cert host error =>
    let policyCache := requests.tracker.policyCache.allowCertForHost cert host error
    some ({ requests with tracker := { requests.tracker with policyCache := policyCache } }, [])
  | .clearCertificatePolicies =>
    some ({ requests with tracker := { requests.tracker with policyCache := .empty } }, [])

/-- Requests have addresses of their own as long as they are not stopped, and hand in callbacks
with the information about their certificate. -/
def Offered : TrackerInput → Prop
  | .startRequest request =>
    request.address ∉ requests.live ∧ env.schemeIsFile request.url = false
  | .stopRequest request => request.address ∈ requests.live
  | .onSSLCertificateError request sslInfo =>
    request.address ∈ requests.live ∧ sslInfo.isSome = true
  | .captureCertificatePolicyCache request =>
    request.address ∈ requests.live ∧ request.sslInfo.isSome = true
  | .trimToURL _ | .allowCertForHost _ _ _ | .clearCertificatePolicies => True

def Tracked (tracker : RequestTrackerImpl) (request : URLRequest) (sslInfo : Option SSLInfo) :
    Prop :=
  ∃ counts ∈ tracker.counts, tracker.countsByRequest request.address = some counts.number ∧
    ∀ info ∈ sslInfo,
      tracker.policyCache.queryPolicy info.cert (env.host counts.url) info.certStatus =
        tracker.policyCache.queryPolicy info.cert (env.host request.url) info.certStatus
deriving Decidable

/-- Whoever hands in a callback that the tracker has to decide about is tracked. -/
def HandsInTracked : TrackerInput → Prop
  | .onSSLCertificateError request sslInfo =>
    Tracked env requests.tracker request sslInfo
  | .captureCertificatePolicyCache request =>
    (∀ info ∈ request.sslInfo, requests.tracker.policyCache.queryPolicy info.cert
      (env.host request.url) info.certStatus = .unknown) →
    Tracked env requests.tracker request request.sslInfo
  | .startRequest _ | .trimToURL _ | .stopRequest _ | .allowCertForHost _ _ _
  | .clearCertificatePolicies => True

end TrackedRequests

def TrackerEvent.answerOf (callback : Nat) : TrackerEvent → Option Bool
  | .ran other shouldContinue => if other = callback then some shouldContinue else none
  | .handedIn _ _ => none

/-- A callback that was handed in is run once, and the request goes on exactly when its
certificate was allowed. -/
structure CallbacksAnswered (log : List TrackerEvent) : Prop where
  once : ∀ callback allowed, .handedIn callback allowed ∈ log →
    log.filterMap (TrackerEvent.answerOf callback) = [allowed]
  expected : ∀ callback shouldContinue, .ran callback shouldContinue ∈ log →
    .handedIn callback shouldContinue ∈ log

namespace TrackedRequests

variable {env : TrackerEnvironment} {requests after : TrackedRequests}
variable {log events : List TrackerEvent} {input : TrackerInput}

/-- No callback is held, and the requests in the map are live. -/
structure Sound (requests : TrackedRequests) : Prop where
  settled : ∀ counts ∈ requests.tracker.counts, counts.Settled
  indexed : Indexed requests.tracker requests.live

/-- The callback that is handed in by a step is run by it. -/
inductive Answers (requests : TrackedRequests) : TrackedRequests → List TrackerEvent → Prop where
  | none {after : TrackedRequests} (same : after.handedIn = requests.handedIn) :
      Answers requests after []
  | once {after : TrackedRequests} (allowed : Bool)
      (next : after.handedIn = requests.handedIn + 1) :
      Answers requests after
        [.handedIn requests.handedIn allowed, .ran requests.handedIn allowed]

variable {sslInfo : SSLInfo}

/-- The policies for two hosts may agree on a certificate. -/
theorem allows_congr {cache : CertificatePolicyCache} {host other : String}
    (same : cache.queryPolicy sslInfo.cert host sslInfo.certStatus =
      cache.queryPolicy sslInfo.cert other sslInfo.certStatus) :
    Allows env cache host sslInfo ↔ Allows env cache other sslInfo := by
  unfold Allows
  rw [same]

theorem onSSLCertificateError_answers {request : URLRequest} (sound : Sound requests)
    (tracked : Tracked env requests.tracker request (some sslInfo)) :
    ∃ tracker, requests.tracker.onSSLCertificateError env request (some sslInfo) true
        (.handed requests.handedIn) = some (tracker, [.ran requests.handedIn
          (Allows env requests.tracker.policyCache (env.host request.url)
            sslInfo)]) ∧
      (∀ counts ∈ tracker.counts, counts.Settled) ∧ Indexed tracker requests.live := by
  obtain ⟨_, mem, has, same⟩ := tracked
  obtain ⟨tracker, ran, kept⟩ := onSSLCertificateError_spec env
    sound.indexed sound.settled mem has requests.handedIn
  refine ⟨tracker, ?_, kept⟩
  rw [ran]
  simp only [allows_congr (same sslInfo rfl)]

/-- A step of requests that hand in their callbacks when they are tracked. -/
theorem step_answers (sound : Sound requests) (offered : Offered env requests input)
    (tracked : HandsInTracked env requests input) :
    ∃ after events, step env requests input = some (after, events) ∧ Sound after ∧
      Answers requests after events := by
  cases input with
  | startRequest request =>
    obtain ⟨tracker, started, settled, indexed⟩ :=
      startRequest_spec sound.indexed sound.settled offered.1 offered.2
    refine ⟨{ requests with tracker := tracker, live := request.address :: requests.live }, [],
      ?_, ⟨settled, indexed⟩, .none rfl⟩
    rw [step, started]
    rfl
  | trimToURL url =>
    obtain ⟨tracker, trimmed, settled, indexed⟩ :=
      trimToURL_spec env sound.indexed sound.settled url
    refine ⟨{ requests with tracker := tracker }, [], ?_, ⟨settled, indexed⟩, .none rfl⟩
    rw [step, trimmed]
    rfl
  | stopRequest request =>
    obtain ⟨tracker, stopped, settled, indexed⟩ :=
      stopRequest_spec request sound.indexed sound.settled
    refine ⟨{ requests with
      tracker := tracker
      live := requests.live.filter fun address => address ≠ request.address }, [], ?_,
      ⟨settled, indexed⟩, .none rfl⟩
    rw [step, stopped]
    rfl
  | onSSLCertificateError request _ =>
    obtain ⟨info, rfl⟩ := Option.isSome_iff_exists.mp offered.2
    obtain ⟨tracker, ran, settled, indexed⟩ := onSSLCertificateError_answers sound tracked
    refine ⟨requests.counted tracker, _, ?_, ⟨settled, indexed⟩, .once
      (Allows env requests.tracker.policyCache (env.host request.url) info)
      rfl⟩
    rw [step, handIn, ran]
    rfl
  | captureCertificatePolicyCache request =>
    obtain ⟨info, has⟩ := Option.isSome_iff_exists.mp offered.2
    cases judgment : requests.tracker.policyCache.queryPolicy info.cert
        (env.host request.url) info.certStatus with
    | unknown =>
      have tracked := tracked (by grind)
      rw [has] at tracked
      obtain ⟨tracker, ran, settled, indexed⟩ := onSSLCertificateError_answers sound tracked
      refine ⟨requests.counted tracker, _, ?_, ⟨settled, indexed⟩, .once
    (Allows env requests.tracker.policyCache (env.host request.url) info)
    rfl⟩
      rw [step, handIn, captureCertificatePolicyCache, has]
      simp [judgment, ran]
    | allowed =>
      refine ⟨requests.counted requests.tracker, _, ?_, ⟨sound.settled, sound.indexed⟩,
        .once true rfl⟩
      simp [step, handIn, captureCertificatePolicyCache, has, judgment, Allows, SSLCallback.run]
    | denied => exact absurd judgment (CertPolicy.check_ne_denied _ _ _)
  | allowCertForHost cert host error | clearCertificatePolicies =>
    exact ⟨_, _, rfl, ⟨sound.settled, ⟨sound.indexed.found, sound.indexed.fresh,
      sound.indexed.nodup, sound.indexed.notClosing⟩⟩, .none rfl⟩

/-! ## Runs -/

/-- Callbacks are numbered, and those so far have been answered. -/
structure AnsweredBelow (log : List TrackerEvent) (count : Nat) : Prop
    extends CallbacksAnswered log where
  below : ∀ callback allowed, .handedIn callback allowed ∈ log → callback < count

theorem AnsweredBelow.next {count : Nat} (answered : AnsweredBelow log count)
    (allowed : Bool) :
    AnsweredBelow (log ++ [.handedIn count allowed, .ran count allowed])
      (count + 1) := by
  have quiet : log.filterMap (TrackerEvent.answerOf count) = [] := by
    refine List.filterMap_eq_nil_iff.mpr fun event mem => ?_
    cases event with
    | handedIn _ _ => rfl
    | ran _ _ =>
      have below := answered.below _ _ (answered.expected _ _ mem)
      exact if_neg (Nat.ne_of_lt below)
  refine ⟨⟨fun callback last mem => ?_, fun callback shouldContinue mem => ?_⟩,
    fun callback last mem => ?_⟩
  · rw [List.filterMap_append]
    rcases List.mem_append.mp mem with old | new
    · have different : count ≠ callback := Nat.ne_of_gt (answered.below _ _ old)
      rw [answered.once callback last old]
      simp [TrackerEvent.answerOf, different]
    · have same : TrackerEvent.handedIn callback last = .handedIn count allowed := by
        simpa using new
      cases same
      have own : TrackerEvent.answerOf count (.ran count allowed) = some allowed := if_pos rfl
      rw [quiet, List.filterMap_cons_none rfl, List.filterMap_cons_some own]
      rfl
  · grind [answered.expected]
  · rcases List.mem_append.mp mem with old | new
    · exact Nat.lt_succ_of_lt (answered.below _ _ old)
    · grind

theorem sound_initial (pageURL : GURL) (policyCache : CertificatePolicyCache) :
    Sound (initial pageURL policyCache) :=
  ⟨fun _ mem => absurd mem List.not_mem_nil,
    ⟨fun _ _ none => (by cases none), fun _ mem => absurd mem List.not_mem_nil, List.nodup_nil,
      rfl⟩⟩

/-- When the tracker is handed in callbacks of tracked requests, it answers each of them once,
and no assertion fails. -/
theorem run_callbacksAnswered {pageURL : GURL} {policyCache : CertificatePolicyCache}
    (run : Runs (step env) (fun requests input => Offered env requests input ∧
      HandsInTracked env requests input) (initial pageURL policyCache) log requests) :
    CallbacksAnswered log ∧ ∀ input, Offered env requests input →
      HandsInTracked env requests input →
        ∃ after events, step env requests input = some (after, events) := by
  have holds : Sound requests ∧ AnsweredBelow log requests.handedIn := by
    refine run.invariant_outputs
      (fun log requests => Sound requests ∧ AnsweredBelow log requests.handedIn)
      ⟨sound_initial pageURL policyCache, ⟨⟨fun _ _ mem => absurd mem List.not_mem_nil,
        fun _ _ mem => absurd mem List.not_mem_nil⟩, fun _ _ mem => absurd mem List.not_mem_nil⟩⟩ ?_
    rintro log requests last input emitted - ⟨sound, answered⟩ ⟨offered, tracked⟩ stepped
    obtain ⟨after, events, own, soundAfter, answers⟩ := step_answers sound offered tracked
    cases stepped.symm.trans own
    refine ⟨soundAfter, ?_⟩
    cases answers with
    | none same =>
      simp [same, answered]
    | once _ next =>
      simp [next, answered.next]
  refine ⟨holds.2.toCallbacksAnswered, fun input offered tracked => ?_⟩
  grind [step_answers]

instance (requests : TrackedRequests) :
    (input : TrackerInput) → Decidable (Offered env requests input)
  | .startRequest _ | .onSSLCertificateError _ _ | .captureCertificatePolicyCache _ =>
    inferInstanceAs (Decidable (_ ∧ _))
  | .stopRequest _ => inferInstanceAs (Decidable (_ ∈ _))
  | .trimToURL _ | .allowCertForHost _ _ _ | .clearCertificatePolicies => isTrue trivial

instance (requests : TrackedRequests) :
    (input : TrackerInput) → Decidable (HandsInTracked env requests input)
  | .onSSLCertificateError _ _ => inferInstanceAs (Decidable (Tracked _ _ _ _))
  | .captureCertificatePolicyCache _ =>
    inferInstanceAs (Decidable ((∀ _ ∈ _, _) → Tracked _ _ _ _))
  | .startRequest _ | .trimToURL _ | .stopRequest _ | .allowCertForHost _ _ _
  | .clearCertificatePolicies => isTrue trivial

/-- URLs of one host, and certificates that are not signed by an authority. -/
def exampleEnvironment : TrackerEnvironment where
  urlByRemovingRef url := url
  isValid url := !url.isEmpty
  schemeIsCryptographic _ := true
  schemeIsFile _ := false
  host _ := "example.com"
  getOrigin _ := ⟨"https://example.com/"⟩
  mapCertStatusToNetError certStatus := if certStatus = 4 then .authorityInvalid else .other (-9)

def pageRequest : URLRequest :=
  ⟨0, ⟨"https://example.com/"⟩, ⟨"https://example.com/"⟩, ⟨"https://example.com/"⟩, none⟩

def imageRequest : URLRequest :=
  ⟨1, ⟨"https://example.com/a.png"⟩, ⟨"https://example.com/a.png"⟩, ⟨"https://example.com/"⟩, none⟩

/-- The certificate of the page was allowed, that of an image was not. -/
theorem run_callbacksAnswered_image : ∃ log : List TrackerEvent,
    log.filterMap (TrackerEvent.answerOf 0) = [true] ∧
      log.filterMap (TrackerEvent.answerOf 1) = [false] := by
  have idle : Runs (step exampleEnvironment) (fun requests input =>
      Offered exampleEnvironment requests input ∧ HandsInTracked exampleEnvironment requests input)
    (initial ⟨""⟩ .empty) [] (initial ⟨""⟩ .empty) := .start
  have answered := (run_callbacksAnswered (idle.replay
    [.allowCertForHost 7 "example.com" 4, .startRequest pageRequest,
      .onSSLCertificateError pageRequest (some ⟨7, 4⟩), .trimToURL ⟨"https://example.com/"⟩,
      .startRequest imageRequest, .onSSLCertificateError imageRequest (some ⟨8, 4⟩),
      .stopRequest imageRequest]
    (Option.eq_some_of_isSome (by decide +kernel)))).1
  exact ⟨_, answered.once 0 true (by decide +kernel), answered.once 1 false (by decide +kernel)⟩

/-- The page begins to load, a request for an image starts, and the request for the page hands in
a callback that is never run. -/
theorem run_callbackDropped : ¬ ∀ (log : List TrackerEvent) (requests : TrackedRequests),
    Runs (step exampleEnvironment) (Offered exampleEnvironment) (initial ⟨""⟩ .empty) log
      requests → CallbacksAnswered log := by
  intro answers
  have idle : Runs (step exampleEnvironment) (Offered exampleEnvironment)
    (initial ⟨""⟩ .empty) [] (initial ⟨""⟩ .empty) := .start
  have answered := answers _ _ (idle.replay
    [.startRequest pageRequest, .trimToURL ⟨"https://example.com/"⟩, .startRequest imageRequest,
      .onSSLCertificateError pageRequest (some ⟨7, 4⟩)]
    (Option.eq_some_of_isSome (by decide +kernel)))
  exact absurd (answered.once 0 false (by decide +kernel)) (by decide +kernel)

end TrackedRequests

end ChromiumIos
