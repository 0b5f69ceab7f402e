import ChromiumIos.Net.CountsEvaluated

/-!
# The map from requests to counts

The map leads from requests that are live to counts that are not done, each at a number of its
own, and counts without a judgment wait for nothing.  Each operation of the tracker keeps this,
and an operation that hands in a callback for a request in the map runs it.
-/

namespace ChromiumIos

open Lib TrackerCounts

/-- Counts that wait for a judgment belong to a request that was cancelled, and no counts hold a
callback. -/
structure TrackerCounts.Settled (counts : TrackerCounts) : Prop where
  waiting : counts.sslJudgment = .unknown →
    counts.sslCallback = .doNothing ∧ counts.done = true
  notHeld : ∀ callback, counts.sslCallback ≠ .handed callback

namespace RequestTrackerImpl

/-- The map leads from live requests to their counts, which are not done. -/
structure Indexed (tracker : RequestTrackerImpl) (live : List Nat) : Prop where
  found : ∀ request number, tracker.countsByRequest request = some number → request ∈ live ∧
    ∃ counts ∈ tracker.counts,
      counts.number = number ∧ counts.request = request ∧ counts.done = false
  fresh : ∀ counts ∈ tracker.counts, counts.number < tracker.nextNumber
  nodup : (tracker.counts.map number).Nodup
  notClosing : tracker.isClosing = false

variable {env : TrackerEnvironment} {tracker after : RequestTrackerImpl}
variable {live : List Nat} {request : URLRequest} {counts : TrackerCounts}

theorem Indexed.countsAt (indexed : Indexed tracker live) (mem : counts ∈ tracker.counts) :
    tracker.countsAt counts.number = some counts := by
  unfold RequestTrackerImpl.countsAt
  cases found : tracker.counts.find? fun other => other.number = counts.number <;> grind [found,
    List.inj_on_of_nodup_map, indexed.nodup]

/-- Counts that are changed keep their number. -/
theorem map_number_setCounts (counts : TrackerCounts) :
    (tracker.setCounts counts).counts.map number = tracker.counts.map number := by
  grind [setCounts, List.map_congr_left]

theorem mem_setCounts {other : TrackerCounts} (mem : other ∈ (tracker.setCounts counts).counts) :
    other = counts ∨ (other ∈ tracker.counts ∧ other.number ≠ counts.number) := by
  obtain ⟨old, inside, same⟩ := List.mem_map.mp mem
  grind

/-- One of the counts is changed and the others keep still. -/
theorem flatMap_setCounts {old : TrackerCounts} {answers : TrackerCounts → List TrackerEvent}
    (indexed : Indexed tracker live) (mem : old ∈ tracker.counts)
    (same : old.number = counts.number) (silent : ∀ other ∈ tracker.counts, answers other = []) :
    (tracker.setCounts counts).counts.flatMap answers = answers counts := by
  obtain ⟨before, later, split⟩ := List.append_of_mem mem
  have nodup := indexed.nodup
  unfold setCounts
  dsimp only
  rw [split] at nodup silent ⊢
  have kept : ∀ other, other ∈ before ∨ other ∈ later →
      answers (if other.number = counts.number then counts else other) = [] := by
    grind
  rw [List.map_append, List.map_cons, List.flatMap_append, List.flatMap_cons, if_pos same,
    List.flatMap_map, List.flatMap_map,
    List.flatMap_eq_nil_iff.mpr fun other inside => kept other (Or.inl inside),
    List.flatMap_eq_nil_iff.mpr fun other inside => kept other (Or.inr inside),
    List.nil_append, List.append_nil]

/-! ## Evaluations -/

variable {cache : CertificatePolicyCache}

theorem evaluated_settled
    (settled : counts.Settled ∨ (counts.sslJudgment = .unknown ∧ counts.sslInfo.isSome = true)) :
    (counts.evaluated env cache).Settled := by
  unfold evaluated
  split
  · next sslInfo unknown has =>
    refine ⟨fun judgment => ⟨rfl, ?_⟩, nofun⟩
    grind
  · next missed =>
    rcases settled with settled | ⟨unknown, has⟩
    · exact settled
    · obtain ⟨sslInfo, has⟩ := Option.isSome_iff_exists.mp has
      grind

/-- Nobody waits for the answers of settled counts. -/
theorem answers_of_settled (settled : counts.Settled) : counts.answers env cache = [] := by
  unfold answers
  split
  · next sslInfo unknown has => rw [(settled.waiting unknown).1, SSLCallback.answer]
  · rfl

theorem evaluated_of_live (kept : counts.rejected env cache = false) :
    (counts.evaluated env cache).number = counts.number ∧
      (counts.evaluated env cache).request = counts.request ∧
      (counts.evaluated env cache).done = counts.done := by
  unfold rejected at kept
  unfold evaluated
  grind

theorem number_evaluated (cache : CertificatePolicyCache) (counts : TrackerCounts) :
    (counts.evaluated env cache).number = counts.number := by
  unfold evaluated
  split
  · rfl
  · rfl

/-- After all counts have been evaluated they are settled, and the requests that were cancelled
are not in the map any more. -/
theorem reevaluate_spec (env : TrackerEnvironment) (indexed : Indexed tracker live)
    (settles : ∀ counts ∈ tracker.counts, counts.Settled ∨
      (counts.sslJudgment = .unknown ∧ counts.sslInfo.isSome = true ∧
        counts.sslCallback ≠ .null)) :
    ∃ after, tracker.reevaluateCallbacksForAllCounts env = some (after,
        tracker.counts.flatMap (answers env tracker.policyCache)) ∧
      (∀ counts ∈ after.counts, counts.Settled) ∧ Indexed after live := by
  have all := evaluateAll_eq env tracker.policyCache tracker.countsByRequest
    fun counts (mem : counts ∈ tracker.counts) unknown => by
      rcases settles counts mem with settled | ⟨-, -, nonnull⟩
      · rw [(settled.waiting unknown).1]
        nofun
      · exact nonnull
  unfold reevaluateCallbacksForAllCounts
  rw [indexed.notClosing, all]
  refine ⟨_, rfl, fun counts mem => ?_, ?_⟩
  · grind [evaluated_settled]
  · refine ⟨fun request number has => ?_, fun counts mem => ?_, ?_, rfl⟩
    · grind [CountsByRequest.erase, evaluated_of_live, indexed.found]
    · obtain ⟨old, inside, rfl⟩ := List.mem_map.mp mem
      rw [number_evaluated]
      exact indexed.fresh old inside
    · have same : number ∘ evaluated env tracker.policyCache = number :=
        funext (number_evaluated tracker.policyCache)
      simp [same, indexed.nodup]

/-! ## Operations -/

/-- A request that is started has counts of its own. -/
theorem startRequest_spec (indexed : Indexed tracker live)
    (settled : ∀ counts ∈ tracker.counts, counts.Settled) (isNew : request.address ∉ live)
    (notFile : env.schemeIsFile request.url = false) :
    ∃ after, tracker.startRequest env request = some after ∧
      (∀ counts ∈ after.counts, counts.Settled) ∧ Indexed after (request.address :: live) := by
  have absent : tracker.countsByRequest request.address = none := by
    cases has : tracker.countsByRequest request.address with
    | none => rfl
    | some _ => exact absurd (indexed.found _ _ has).1 isNew
  unfold startRequest
  rw [dcheck_of absent, dcheck_of notFile]
  refine ⟨_, rfl, fun counts mem => ?_, fun address number has => ?_, fun counts mem => ?_, ?_,
    indexed.notClosing⟩
  · rcases List.mem_append.mp mem with old | new
    · exact settled counts old
    · cases List.mem_singleton.mp new
      exact ⟨nofun, nofun⟩
  · change Function.update _ _ _ _ = _ at has
    by_cases own : address = request.address
    · rw [own, Function.update_self] at has
      refine ⟨?_, _, List.mem_append_right _ List.mem_cons_self, Option.some.inj has, ?_, rfl⟩
      · rw [own]
        exact List.mem_cons_self
      · exact own.symm
    · grind [indexed.found]
  · rcases List.mem_append.mp mem with old | new
    · exact Nat.lt_succ_of_lt (indexed.fresh counts old)
    · grind [make]
  · change ((tracker.counts ++ [_]).map number).Nodup
    rw [List.map_append, List.nodup_append]
    refine ⟨indexed.nodup, List.nodup_singleton _, fun old mem new isNew same => ?_⟩
    obtain ⟨counts, inside, rfl⟩ := List.mem_map.mp mem
    cases List.mem_singleton.mp isNew
    exact absurd same (Nat.ne_of_lt (indexed.fresh counts inside))

/-- A request that is stopped is not in the map any more. -/
theorem stopRequest_spec (request : URLRequest) (indexed : Indexed tracker live)
    (settled : ∀ counts ∈ tracker.counts, counts.Settled) :
    ∃ after, tracker.stopRequest request = some after ∧
      (∀ counts ∈ after.counts, counts.Settled) ∧
      Indexed after (live.filter fun address => address ≠ request.address) := by
  have others : ∀ address ∈ live, address ≠ request.address →
      address ∈ live.filter fun address => address ≠ request.address :=
    by grind
  unfold stopRequest
  cases has : tracker.countsByRequest request.address with
  | none =>
    refine ⟨tracker, rfl, settled, fun address number found => ?_, indexed.fresh, indexed.nodup,
      indexed.notClosing⟩
    grind [indexed.found]
  | some number =>
    obtain ⟨-, counts, mem, rfl, own, notDone⟩ := indexed.found _ _ has
    unfold stopRedirectedRequest
    dsimp only
    rw [has]
    dsimp only
    rw [indexed.countsAt mem, Option.bind_eq_bind, Option.bind_some, dcheck_of notDone]
    have waits := (settled counts mem).waiting
    refine ⟨_, rfl, fun other inside => ?_, fun address number found => ?_,
      fun other inside => ?_, ?_, indexed.notClosing⟩
    · rcases mem_setCounts inside with rfl | ⟨old, -⟩
      · exact ⟨fun unknown => ⟨(waits unknown).1, rfl⟩, (settled counts mem).notHeld⟩
      · exact settled other old
    · change Function.update _ _ _ _ = _ at found
      by_cases same : address = request.address
      · simp [same] at found
      · rw [Function.update_of_ne same] at found
        obtain ⟨isLive, other, inside, sameNumber, sameRequest, live⟩ :=
          indexed.found address number found
        refine ⟨others address isLive same, other, List.mem_map.mpr ⟨other, inside, ?_⟩,
          sameNumber, sameRequest, live⟩
        refine if_neg fun equal => same ?_
        rw [← sameRequest, List.inj_on_of_nodup_map indexed.nodup inside mem equal, own]
    · rcases mem_setCounts inside with rfl | ⟨old, -⟩
      · exact indexed.fresh counts mem
      · exact indexed.fresh other old
    · simp [map_number_setCounts, indexed.nodup]

variable (env : TrackerEnvironment)

/-- The callback of a request in the map is run when it is handed in. -/
theorem onSSLCertificateError_spec {sslInfo : SSLInfo} (indexed : Indexed tracker live)
    (settled : ∀ counts ∈ tracker.counts, counts.Settled) (mem : counts ∈ tracker.counts)
    (has : tracker.countsByRequest request.address = some counts.number) (callback : Nat) :
    ∃ after, tracker.onSSLCertificateError env request (some sslInfo) true
        (.handed callback) = some (after, [.ran callback
          (Allows env tracker.policyCache (env.host counts.url) sslInfo)]) ∧
      (∀ counts ∈ after.counts, counts.Settled) ∧ Indexed after live := by
  obtain ⟨-, found, inside, same, -, notDone⟩ := indexed.found _ _ has
  cases List.inj_on_of_nodup_map indexed.nodup inside mem same
  have paused : Indexed (tracker.setCounts { counts with
      sslInfo := some sslInfo
      sslCallback := .handed callback
      sslJudgment := .unknown }) live := by
    refine ⟨fun address number found => ?_, fun other inside => ?_, ?_, indexed.notClosing⟩
    · grind [setCounts, List.mem_map_of_mem, List.inj_on_of_nodup_map, indexed.found, indexed.nodup]
    · rcases mem_setCounts inside with rfl | ⟨old, -⟩
      · exact indexed.fresh counts mem
      · exact indexed.fresh other old
    · rw [map_number_setCounts]
      exact indexed.nodup
  obtain ⟨after, evaluated, settledAfter, indexedAfter⟩ :=
    reevaluate_spec env paused fun other inside => by
      rcases mem_setCounts inside with rfl | ⟨old, -⟩ <;> grind
  have ran : (tracker.setCounts { counts with
      sslInfo := some sslInfo
      sslCallback := .handed callback
      sslJudgment := .unknown }).counts.flatMap (answers env tracker.policyCache) = _ :=
    flatMap_setCounts indexed mem rfl fun other inside =>
      answers_of_settled (settled other inside)
  refine ⟨after, ?_, settledAfter, indexedAfter⟩
  unfold onSSLCertificateError
  rw [has]
  dsimp only
  have isValid : dcheck ((some sslInfo).isSome = true) = some () := dcheck_of rfl
  rw [indexed.countsAt mem, isValid]
  have waits : dcheck (counts.done = false) = some () := dcheck_of notDone
  simp only [Option.bind_eq_bind, Option.bind_some, waits, if_true]
  refine evaluated.trans ?_
  change some (after, (tracker.setCounts _).counts.flatMap
    (answers env tracker.policyCache)) = _
  rw [ran]
  rfl

theorem recomputeMixedContent_frame (tracker : RequestTrackerImpl) (splitPosition : Option Nat) :
    ∃ hasMixedContent,
    tracker.recomputeMixedContent env splitPosition =
      { tracker with hasMixedContent := hasMixedContent } := by
  unfold recomputeMixedContent
  split <;> grind

/-- Requests are erased from the map with their counts. -/
theorem Indexed.trimmed (indexed : Indexed tracker live) (dropped : TrackerCounts → Bool)
    (hasMixedContent : Bool) (pageURL : GURL) : Indexed { tracker with
      counts := tracker.counts.dropWhile dropped
      countsByRequest := CountsByRequest.erase tracker.countsByRequest
        (((tracker.counts.takeWhile dropped).filter fun counts => !counts.done).map
          TrackerCounts.request)
      hasMixedContent := hasMixedContent
      pageURL := pageURL
      newEstimateRound := true } live := by
  have rest := List.dropWhile_sublist (l := tracker.counts) dropped
  refine ⟨fun address number has => ?_, fun counts mem => indexed.fresh counts (rest.subset mem),
    indexed.nodup.sublist (rest.map number), indexed.notClosing⟩
  grind [CountsByRequest.erase, List.takeWhile_append_dropWhile, indexed.found]

/-- A new page runs no callback. -/
theorem trimToURL_spec (indexed : Indexed tracker live)
    (settled : ∀ counts ∈ tracker.counts, counts.Settled) (url : GURL) :
    ∃ after, tracker.trimToURL env url = some (after, []) ∧
      (∀ counts ∈ after.counts, counts.Settled) ∧ Indexed after live := by
  unfold trimToURL
  dsimp only
  generalize (tracker.splitPosition env (env.urlByRemovingRef url)).map number =
    splitPosition
  obtain ⟨hasMixedContent, recomputed⟩ :=
    recomputeMixedContent_frame env tracker splitPosition
  rw [recomputed]
  dsimp only
  rw [trim_eq tracker.countsByRequest fun counts mem unknown =>
    ((settled counts mem).waiting unknown).2]
  have kept := fun counts mem => settled counts
    ((List.dropWhile_sublist fun counts : TrackerCounts => decide
      (splitPosition ≠ some counts.number)).subset mem)
  obtain ⟨after, evaluated, settledAfter, indexedAfter⟩ := reevaluate_spec env
    (indexed.trimmed (fun counts => splitPosition ≠ some counts.number)
      (tracker.newURLHasMixedContent env (env.urlByRemovingRef url))
      (env.urlByRemovingRef url)) fun counts mem => Or.inl (kept counts mem)
  refine ⟨after, ?_, settledAfter, indexedAfter⟩
  rw [List.flatMap_eq_nil_iff.mpr fun counts mem => answers_of_settled (kept counts mem)]
    at evaluated
  grind

end RequestTrackerImpl

end ChromiumIos
