import ChromiumIos.Net.RequestTrackerImpl

/-!
# Counts evaluated and trimmed

What an evaluation of all counts does to each of them, to the map from requests and to the
callbacks is stated as functions of the counts, and so is what is left when a new page trims
them.
-/

namespace ChromiumIos

open Lib

namespace CountsByRequest

variable (byRequest : CountsByRequest)

def erase (byRequest : CountsByRequest) (requests : List Nat) : CountsByRequest :=
  fun request => if request ∈ requests then none else byRequest request

theorem erase_nil : byRequest.erase [] = byRequest :=
  funext fun _ => if_neg List.not_mem_nil

theorem erase_erase (requests more : List Nat) :
    (byRequest.erase requests).erase more = byRequest.erase (requests ++ more) := by
  funext request
  unfold erase
  grind

theorem update_none (request : Nat) :
    Function.update byRequest request none = byRequest.erase [request] := by
  funext other
  unfold erase
  grind

end CountsByRequest

def SSLCallback.answer : SSLCallback → Bool → List TrackerEvent
  | .handed callback, shouldContinue => [.ran callback shouldContinue]
  | .null, _ | .doNothing, _ => []

theorem SSLCallback.run_eq {callback : SSLCallback} (nonnull : callback ≠ .null)
    (shouldContinue : Bool) :
    callback.run shouldContinue = some (callback.answer shouldContinue) := by
  cases callback <;> grind [run, answer]

namespace TrackerCounts

variable {env : TrackerEnvironment} {cache : CertificatePolicyCache}
variable {counts : TrackerCounts} {byRequest : CountsByRequest}
variable {all : List TrackerCounts} (env : TrackerEnvironment)
  (cache : CertificatePolicyCache) (byRequest : CountsByRequest)

def Allows (host : String) (sslInfo : SSLInfo) : Prop :=
  cache.queryPolicy sslInfo.cert host sslInfo.certStatus = .allowed ∨
    env.mapCertStatusToNetError sslInfo.certStatus ∈
      [.noRevocationMechanism, .unableToCheckRevocation]
deriving Decidable

theorem judge_eq_allowed_iff (host : String) (sslInfo : SSLInfo) :
    judge env cache host sslInfo = .allowed ↔ Allows env cache host sslInfo := by
  unfold judge Allows
  grind

/-! ## Evaluations -/

def rejected (counts : TrackerCounts) : Bool :=
  counts.sslJudgment = .unknown && counts.sslInfo.any fun sslInfo =>
    judge env cache (env.host counts.url) sslInfo ≠ .allowed

def evaluated (counts : TrackerCounts) : TrackerCounts :=
  match counts.sslJudgment, counts.sslInfo with
  | .unknown, some sslInfo =>
    let judgment := judge env cache (env.host counts.url) sslInfo
    { counts with
      sslJudgment := judgment
      sslCallback := .doNothing
      done := counts.done || judgment ≠ .allowed }
  | _, _ => counts

def answers (counts : TrackerCounts) : List TrackerEvent :=
  match counts.sslJudgment, counts.sslInfo with
  | .unknown, some sslInfo =>
    counts.sslCallback.answer (Allows env cache (env.host counts.url) sslInfo)
  | _, _ => []

/-- The counts that wait for a judgment are evaluated. -/
theorem evaluateSSLCallback_eq (unknown : counts.sslJudgment = .unknown)
    (nonnull : counts.sslCallback ≠ .null) :
    counts.evaluateSSLCallback env cache byRequest =
      some (counts.evaluated env cache,
        byRequest.erase (if counts.rejected env cache then [counts.request] else []),
        counts.answers env cache) := by
  unfold evaluateSSLCallback evaluated rejected answers
  rw [unknown]
  cases counts.sslInfo with
  | none => simp [CountsByRequest.erase_nil]
  | some sslInfo =>
    have allows := judge_eq_allowed_iff env cache (env.host counts.url) sslInfo
    cases judgment : judge env cache (env.host counts.url) sslInfo with
    | allowed =>
      grind [SSLCallback.run_eq, CountsByRequest.erase_nil]
    | unknown | denied =>
      have rejected : ¬Allows env cache (env.host counts.url) sslInfo :=
        fun allowed => by cases judgment.symm.trans (allows.mpr allowed)
      simp [judgment, rejected, cancelRequest, SSLCallback.run_eq nonnull,
        CountsByRequest.update_none]

theorem evaluated_of_judged (judged : counts.sslJudgment ≠ .unknown) :
    counts.evaluated env cache = counts ∧ counts.answers env cache = [] ∧
      counts.rejected env cache = false := by
  simp [evaluated, answers, rejected, judged]

/-- All counts are evaluated, as none has a callback missing. -/
theorem evaluateAll_eq
    (nonnull : ∀ counts ∈ all, counts.sslJudgment = .unknown → counts.sslCallback ≠ .null) :
    evaluateAll env cache all byRequest =
      some (all.map (evaluated env cache),
        byRequest.erase ((all.filter (rejected env cache)).map request),
        all.flatMap (answers env cache)) := by
  induction all generalizing byRequest with
  | nil => rfl
  | cons counts _ _ =>
    by_cases unknown : counts.sslJudgment = .unknown
    · have own := evaluateSSLCallback_eq env cache byRequest unknown
        (nonnull counts List.mem_cons_self unknown)
      rw [evaluateAll, if_pos unknown, own]
      grind [CountsByRequest.erase_erase]
    · obtain ⟨same, silent, kept⟩ := evaluated_of_judged env cache unknown
      rw [evaluateAll, if_neg unknown]
      grind

/-! ## Trimmed counts -/

/-- Requests that wait for nothing are dropped without a callback. -/
theorem trim_eq {splitPosition : Option Nat}
    (resolved : ∀ counts ∈ all, counts.sslJudgment = .unknown → counts.done = true) :
    trim splitPosition all byRequest =
      some (all.dropWhile fun counts => splitPosition ≠ some counts.number,
        byRequest.erase (((all.takeWhile fun counts => splitPosition ≠ some counts.number).filter
          fun counts => !counts.done).map request),
        []) := by
  induction all generalizing byRequest with
  | nil => simp [trim, CountsByRequest.erase_nil]
  | cons counts _ ih =>
    have later := fun byRequest => ih byRequest fun other mem =>
      resolved other (List.mem_cons_of_mem _ mem)
    rw [trim]
    by_cases position : splitPosition = some counts.number
    · simp [position, CountsByRequest.erase_nil]
    · by_cases done : counts.done = true
      · simp [position, done, later]
      · have judged : counts.sslJudgment ≠ .unknown :=
          fun unknown => done (resolved counts List.mem_cons_self unknown)
        simp [position, done, judged, later, CountsByRequest.update_none,
          CountsByRequest.erase_erase]

end TrackerCounts

end ChromiumIos
