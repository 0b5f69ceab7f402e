import ChromiumIos.FindInPage.FindInPageManager

/-!
# Reports of a search in all frames

The counter of pending calls goes down with every answer, also with one that only
says that the frame has not finished, for which the frame is called again.  So the
counter is the number of calls outstanding as long as no frame answers so.  Then,
and only then, the delegate is told once, when the last frame has finished.
-/

namespace ChromiumIos

open Lib

namespace FindInPageManager

variable {FrameId : Type} [DecidableEq FrameId]

/-! ## What a log tells -/

variable (uniqueId : Nat) (manager : FindInPageManager FrameId) (input : Input FrameId)
  (frames : List FrameId) (log : List (Output FrameId)) (output : Output FrameId)

def isAnswer : Output FrameId → Bool
  | .received (.answered call _) => call.uniqueId = uniqueId
  | _ => false

def isPending : Output FrameId → Bool
  | .received (.answered call result) =>
    call.uniqueId = uniqueId ∧ result = .number findInPagePending
  | _ => false

def isReport : Output FrameId → Bool
  | .received _ => false
  | .didCountMatches _ _ => true

def availableAfter : Output FrameId → List FrameId
  | .received (.frameAvailable frameId _) => frames ++ [frameId]
  | .received (.frameUnavailable frameId) => frames.filter (· ≠ frameId)
  | _ => frames

def finalCountAfter (frameId : FrameId) (count : Int) : Output FrameId → Int
  | .received (.answered call result) =>
    if call.uniqueId = uniqueId ∧ call.frameId = frameId ∧ result ≠ .number findInPagePending then
      matchCount result
    else count
  | .received (.frameAvailable available _) => if available = frameId then 0 else count
  | _ => count

def available : List FrameId :=
  log.foldl availableAfter frames

def finalCount (frameId : FrameId) : Int :=
  log.foldl (finalCountAfter uniqueId frameId) 0

def totalCount : Int :=
  ((available frames log).map (finalCount uniqueId log)).sum

/-- No frame says that it has not finished. -/
def NonePending : Prop :=
  log.countP (isPending uniqueId) = 0
deriving Decidable

def AllAnswered : Prop :=
  ∀ call ∈ manager.calls, call.uniqueId ≠ uniqueId
deriving Decidable

def Silent : Prop := log.countP isReport = 0
deriving Decidable

/-- The delegate was told once, right after the last answer, and told the query and the total
of that moment. -/
def CountedOnce (query : String) (frames : List FrameId) (log : List (Output FrameId)) : Prop :=
  ∃ before answer after, isAnswer uniqueId answer = true ∧
    log = before ++ answer ::
      .didCountMatches (totalCount uniqueId frames (before ++ [answer])) query :: after ∧
    Silent before ∧ Silent after ∧ after.countP (isAnswer uniqueId) = 0

/-! ## All runs -/

/-- What holds of the manager at any time. -/
structure Sound (manager : FindInPageManager FrameId) : Prop where
  nodup : manager.frames.Nodup
  absent : ∀ frameId, frameId ∉ manager.frames → manager.frameMatchCount.count frameId = 0
  calls : ∀ call ∈ manager.calls, call.uniqueId ≤ manager.uniqueId

theorem sound_initial : Sound (initial : FindInPageManager FrameId) where
  nodup := List.nodup_nil
  absent _ _ := rfl
  calls _ mem := by cases mem

section Steps

variable {canCall : FrameId → Bool} {manager after : FindInPageManager FrameId}
variable {input : Input FrameId} {emitted : List (Output FrameId)}

omit [DecidableEq FrameId] in
/-- The calls that a search makes. -/
theorem find_search (canCall : FrameId → Bool) (manager : FindInPageManager FrameId)
    (query : String) :
    manager.find canCall query .findInPageSearch = { manager with
      pendingFrameCallCount := manager.frames.length
      uniqueId := manager.uniqueId + 1
      calls := manager.calls ++ (manager.frames.filter fun frameId => canCall frameId).map
        (searchCall query (manager.uniqueId + 1)) } := by
  have loop : ∀ (frames : List FrameId) (started : FindInPageManager FrameId),
      frames.foldl (fun called frameId => called.callJavaScriptFunction canCall
          (searchCall query (manager.uniqueId + 1) frameId)) started =
        { started with
          calls := started.calls ++ (frames.filter fun frameId => canCall frameId).map
            (searchCall query (manager.uniqueId + 1)) } := by
    intro frames
    induction frames with
    | nil => intro started; simp
    | cons frameId _ ih =>
      intro started
      rw [List.foldl_cons, ih]
      unfold callJavaScriptFunction
      by_cases accepted : canCall frameId = true
      · simp [if_pos (show canCall (searchCall query _ frameId).frameId = true from accepted),
          List.filter_cons_of_pos (by simpa using accepted)]
      · rw [if_neg (by simp [searchCall, accepted]),
          List.filter_cons_of_neg (by simpa using accepted)]
  exact loop _ _

def settled (manager : FindInPageManager FrameId) (call : FrameCall FrameId)
    (result : FrameResult) : FindInPageManager FrameId :=
  { manager with
    pendingFrameCallCount := manager.pendingFrameCallCount - 1
    frameMatchCount := manager.frameMatchCount.set call.frameId (matchCount result) }

/-- The manager after a frame has said that it has not finished. -/
def pumped (canCall : FrameId → Bool) (manager : FindInPageManager FrameId)
    (call : FrameCall FrameId) : FindInPageManager FrameId :=
  { manager with
    pendingFrameCallCount := manager.pendingFrameCallCount - 1 }.callJavaScriptFunction canCall
      { call with function := .findInPagePump }

variable {result : FrameResult}

theorem matchCount_eq_pending :
    matchCount result = findInPagePending ↔ result = .number findInPagePending := by
  cases result <;> simp [matchCount, findInPagePending]

variable {call : FrameCall FrameId}

/-- A null result, as that of a frame that is gone, counts like a number that is nought. -/
theorem processFindInPageResult_eq (gone : call.frameId ∉ manager.frames → result = .null) :
    manager.processFindInPageResult canCall call result =
      if call.uniqueId ≠ manager.uniqueId ∨ manager.webStateExists = false then (manager, [])
      else if result = .number findInPagePending then (manager.pumped canCall call, [])
      else
        (manager.settled call result, (manager.settled call result).reportIfDone call.query) := by
  unfold processFindInPageResult
  by_cases other : call.uniqueId ≠ manager.uniqueId
  · rw [if_pos other, if_pos (.inl other)]
  by_cases destroyed : manager.webStateExists = false
  · grind
  have ours : ¬ (call.uniqueId ≠ manager.uniqueId ∨ manager.webStateExists = false) :=
    fun ignored => ignored.elim other destroyed
  rw [if_neg other, if_neg (by simpa using destroyed), if_neg ours]
  by_cases null : result = .null ∨ call.frameId ∉ manager.frames
  · have isNull : result = .null := null.elim id gone
    rw [isNull]
    rfl
  · by_cases pending : result = .number findInPagePending
    · rw [pending]
      rw [pending] at null
      simp only [if_neg null, if_pos]
      rfl
    · simp only [if_neg null, if_neg pending, matchCount_eq_pending]
      rfl

omit [DecidableEq FrameId] in
theorem pumped_of_accepted (accepted : canCall call.frameId = true) :
    manager.pumped canCall call = { manager with
      pendingFrameCallCount := manager.pendingFrameCallCount - 1
      calls := manager.calls ++ [{ call with function := .findInPagePump }] } :=
  if_pos accepted

omit [DecidableEq FrameId] in
/-- Calls that are made again have the ID of those answered. -/
theorem calls_pumped {other : FrameCall FrameId}
    (mem : other ∈ (manager.pumped canCall call).calls) :
    other ∈ manager.calls ∨ other.uniqueId = call.uniqueId := by
  grind [pumped, callJavaScriptFunction]

omit [DecidableEq FrameId] in
theorem pumped_keeps (canCall : FrameId → Bool) (manager : FindInPageManager FrameId)
    (call : FrameCall FrameId) :
    (manager.pumped canCall call).frames = manager.frames ∧
      (manager.pumped canCall call).frameMatchCount = manager.frameMatchCount ∧
      (manager.pumped canCall call).uniqueId = manager.uniqueId := by
  unfold pumped callJavaScriptFunction
  split <;> exact ⟨rfl, rfl, rfl⟩

theorem Sound.answered (sound : Sound manager) (mem : call ∈ manager.calls)
    (gone : call.frameId ∉ manager.frames → result = .null) :
    Sound ({ manager with calls := manager.calls.erase call }.processFindInPageResult canCall call
      result).1 := by
  rw [processFindInPageResult_eq (by exact gone)]
  have erased : ∀ other ∈ manager.calls.erase call, other.uniqueId ≤ manager.uniqueId :=
    fun other memOther => sound.calls other (List.mem_of_mem_erase memOther)
  split
  · exact ⟨sound.nodup, sound.absent, erased⟩
  · split
    · obtain ⟨frames, counts, uniqueId⟩ :=
        pumped_keeps canCall { manager with calls := manager.calls.erase call } call
      refine ⟨?_, ?_, fun other memOther => ?_⟩
      · rw [frames]
        exact sound.nodup
      · rw [frames, counts]
        exact sound.absent
      · rw [uniqueId]
        rcases calls_pumped memOther with kept | same <;> grind
    · refine ⟨sound.nodup, fun frameId notMem => ?_, erased⟩
      change (manager.frameMatchCount.set call.frameId (matchCount result)).count frameId = 0
      rw [Counts.count_set]
      split
      · rename_i same
        rw [gone (same ▸ notMem)]
        rfl
      · exact sound.absent frameId notMem

theorem Sound.step (sound : Sound manager) (accepted : Accepts manager input)
    (stepped : FindInPageManager.step canCall manager input = some (after, emitted)) :
    Sound after := by
  cases stepped
  cases input with
  | find query options =>
    cases options with
    | findInPageSearch =>
      change Sound (manager.find canCall query .findInPageSearch)
      rw [find_search]
      refine ⟨sound.nodup, sound.absent, fun call mem => ?_⟩
      rcases List.mem_append.mp mem with old | new
      · exact Nat.le_succ_of_le (sound.calls call old)
      · grind [searchCall]
    | findInPageNext | findInPagePrevious => exact sound
  | frameAvailable frameId isMainFrame =>
    refine ⟨List.nodup_append.mpr ⟨sound.nodup, List.nodup_singleton _, ?_⟩, ?_, sound.calls⟩
    · intro other memOther same memSame
      cases List.mem_singleton.mp memSame
      exact fun isSame => accepted (isSame ▸ memOther)
    · intro other notMem
      change (manager.frameMatchCount.set frameId 0).count other = 0
      rw [Counts.count_set]
      split
      · rfl
      · exact sound.absent other fun mem => notMem (List.mem_append_left _ mem)
  | frameUnavailable frameId =>
    refine ⟨sound.nodup.filter _, fun other notMem => ?_, sound.calls⟩
    change (manager.frameMatchCount.erase frameId).count other = 0
    rw [Counts.count_erase]
    split
    · rfl
    · rename_i differs
      exact sound.absent other fun mem =>
        notMem (List.mem_filter.mpr ⟨mem, decide_eq_true differs⟩)
  | answered call result => exact sound.answered accepted.1 accepted.2
  | webStateDestroyed => exact ⟨sound.nodup, sound.absent, sound.calls⟩

theorem run_sound {log : List (Output FrameId)}
    (run : Runs (FindInPageManager.step canCall) Accepts initial log manager) : Sound manager :=
  run.invariant Sound sound_initial fun sound accepted stepped => sound.step accepted stepped

end Steps

/-! ## The run of one search -/

/-- No other search is started, and the web state goes on to exist. -/
def Undisturbed : Input FrameId → Prop
  | .find _ .findInPageSearch | .webStateDestroyed => False
  | _ => True

/-- A log since a search was started in some frames, and the manager it has led to. -/
structure Tracks (canCall : FrameId → Bool) (uniqueId : Nat) (query : String)
    (frames : List FrameId) (log : List (Output FrameId)) (manager : FindInPageManager FrameId) :
    Prop extends Sound manager where
  webStateExists : manager.webStateExists = true
  sameID : manager.uniqueId = uniqueId
  ours : ∀ call ∈ manager.calls, call.uniqueId = uniqueId →
    call.query = query ∧ canCall call.frameId = true
  counter : manager.pendingFrameCallCount = frames.length - (log.countP (isAnswer uniqueId) : Int)
  outstanding : manager.calls.countP (fun call => call.uniqueId = uniqueId) +
    log.countP (isAnswer uniqueId) = frames.length + log.countP (isPending uniqueId)
  available : manager.frames = FindInPageManager.available frames log
  /-- The counts of the frames that have answered. -/
  counts : ∀ frameId ∈ manager.frames,
    (∀ call ∈ manager.calls, call.uniqueId = uniqueId → call.frameId ≠ frameId) →
    manager.frameMatchCount.count frameId = finalCount uniqueId log frameId

theorem available_concat :
    available frames (log ++ [output]) = availableAfter (available frames log) output :=
  List.foldl_concat ..

theorem finalCount_concat (frameId : FrameId) :
    finalCount uniqueId (log ++ [output]) frameId =
      finalCountAfter uniqueId frameId (finalCount uniqueId log frameId) output :=
  List.foldl_concat ..

section Search

variable {canCall : FrameId → Bool} {uniqueId : Nat} {query : String} {frames : List FrameId}
variable {log : List (Output FrameId)} {manager after : FindInPageManager FrameId}
variable {input : Input FrameId} {emitted : List (Output FrameId)}
variable {call : FrameCall FrameId} {result : FrameResult}

/-- An event that is no answer to the search. -/
theorem Tracks.unanswered (tracks : Tracks canCall uniqueId query frames log manager)
    (sound : Sound after) (webStateExists : after.webStateExists = manager.webStateExists)
    (sameID : after.uniqueId = manager.uniqueId)
    (counter : after.pendingFrameCallCount = manager.pendingFrameCallCount)
    (calls : after.calls.filter (fun call => call.uniqueId = uniqueId) =
      manager.calls.filter fun call => call.uniqueId = uniqueId)
    {output : Output FrameId} (notAnswer : isAnswer uniqueId output = false)
    (notPending : isPending uniqueId output = false)
    (available : after.frames = availableAfter manager.frames output)
    (counts : ∀ frameId ∈ after.frames,
      (∀ call ∈ manager.calls, call.uniqueId = uniqueId → call.frameId ≠ frameId) →
      after.frameMatchCount.count frameId =
        finalCountAfter uniqueId frameId (finalCount uniqueId log frameId) output) :
    Tracks canCall uniqueId query frames (log ++ [output]) after where
  toSound := sound
  webStateExists := webStateExists.trans tracks.webStateExists
  sameID := sameID.trans tracks.sameID
  ours call mem ours := by
    have kept : call ∈ manager.calls.filter fun call => call.uniqueId = uniqueId :=
      calls ▸ List.mem_filter.mpr ⟨mem, decide_eq_true ours⟩
    exact tracks.ours call (List.mem_filter.mp kept).1 ours
  counter := by
    simp [counter, tracks.counter, notAnswer]
  outstanding := by
    have same := tracks.outstanding
    grind
  available := by rw [available, available_concat, tracks.available]
  counts frameId mem unanswered := by
    rw [finalCount_concat]
    refine counts frameId mem fun call memCall ours => ?_
    have kept : call ∈ after.calls.filter fun call => call.uniqueId = uniqueId :=
      calls ▸ List.mem_filter.mpr ⟨memCall, decide_eq_true ours⟩
    grind

/-- What is told to the delegate changes nothing. -/
theorem Tracks.report (tracks : Tracks canCall uniqueId query frames log manager)
    (matchCount : Int) (text : String) :
    Tracks canCall uniqueId query frames (log ++ [.didCountMatches matchCount text]) manager := by
  refine tracks.unanswered tracks.toSound rfl rfl rfl rfl rfl rfl rfl
    fun frameId mem unanswered => ?_
  exact tracks.counts frameId mem unanswered

theorem Tracks.erase (tracks : Tracks canCall uniqueId query frames log manager)
    (mem : call ∈ manager.calls) (ours : call.uniqueId = uniqueId) :
    (manager.calls.erase call).countP (fun call => call.uniqueId = uniqueId) + 1 +
      log.countP (isAnswer uniqueId) = frames.length + log.countP (isPending uniqueId) := by
  have positive : 0 < manager.calls.countP fun call => call.uniqueId = uniqueId :=
    List.countP_pos_iff.mpr ⟨call, mem, decide_eq_true ours⟩
  rw [List.countP_erase, if_pos ⟨mem, decide_eq_true ours⟩, Nat.sub_add_cancel positive]
  exact tracks.outstanding

/-- A frame says that it has not finished. -/
theorem Tracks.pumped (tracks : Tracks canCall uniqueId query frames log manager)
    (mem : call ∈ manager.calls) (ours : call.uniqueId = uniqueId)
    (sound : Sound (FindInPageManager.pumped canCall
      { manager with calls := manager.calls.erase call } call)) :
    Tracks canCall uniqueId query frames
      (log ++ [.received (.answered call (.number findInPagePending))])
      (FindInPageManager.pumped canCall
        { manager with calls := manager.calls.erase call } call) := by
  obtain ⟨sameQuery, accepted⟩ := tracks.ours call mem ours
  have isAnswered : isAnswer uniqueId
      (.received (.answered call (.number findInPagePending)) : Output FrameId) = true :=
    decide_eq_true ours
  have saysPending : isPending uniqueId
      (.received (.answered call (.number findInPagePending)) : Output FrameId) = true :=
    decide_eq_true ⟨ours, rfl⟩
  rw [pumped_of_accepted accepted] at sound ⊢
  refine ⟨sound, tracks.webStateExists, tracks.sameID, ?_, ?_, ?_, ?_, ?_⟩
  · intro other memOther oursOther
    rcases List.mem_append.mp memOther with kept | again
    · exact tracks.ours other (List.mem_of_mem_erase kept) oursOther
    · grind
  · rw [tracks.counter, List.countP_append, List.countP_singleton, isAnswered]
    simp only [if_true]
    omega
  · have erased := tracks.erase mem ours
    grind
  · rw [available_concat]
    exact tracks.available
  · intro frameId memFrame unanswered
    rw [finalCount_concat]
    have differs : call.frameId ≠ frameId :=
      unanswered { call with function := .findInPagePump }
        (List.mem_append_right _ (List.mem_singleton_self _)) ours
    have same : finalCountAfter uniqueId frameId (finalCount uniqueId log frameId)
        (.received (.answered call (.number findInPagePending))) =
          finalCount uniqueId log frameId :=
      if_neg fun ⟨_, _, final⟩ => final rfl
    rw [same]
    refine tracks.counts frameId memFrame fun other memOther oursOther => ?_
    grind

/-- A frame has finished. -/
theorem Tracks.settled (tracks : Tracks canCall uniqueId query frames log manager)
    (mem : call ∈ manager.calls) (ours : call.uniqueId = uniqueId)
    (final : result ≠ .number findInPagePending)
    (sound : Sound (FindInPageManager.settled
      { manager with calls := manager.calls.erase call } call result)) :
    Tracks canCall uniqueId query frames (log ++ [.received (.answered call result)])
      (FindInPageManager.settled { manager with calls := manager.calls.erase call } call
        result) := by
  have isAnswered : isAnswer uniqueId
      (.received (.answered call result) : Output FrameId) = true := decide_eq_true ours
  have saysFinal : isPending uniqueId
      (.received (.answered call result) : Output FrameId) = false :=
    decide_eq_false fun ⟨_, pending⟩ => final pending
  refine ⟨sound, tracks.webStateExists, tracks.sameID, ?_, ?_, ?_, ?_, ?_⟩
  · exact fun other memOther => tracks.ours other (List.mem_of_mem_erase memOther)
  · change manager.pendingFrameCallCount - 1 = _
    rw [tracks.counter, List.countP_append, List.countP_singleton, isAnswered]
    simp only [if_true]
    omega
  · have erased := tracks.erase mem ours
    change (manager.calls.erase call).countP _ + _ = _
    grind
  · rw [available_concat]
    exact tracks.available
  · intro frameId memFrame unanswered
    rw [finalCount_concat]
    change (manager.frameMatchCount.set call.frameId (matchCount result)).count frameId = _
    rw [Counts.count_set]
    by_cases same : frameId = call.frameId
    · rw [if_pos same]
      exact (if_pos ⟨ours, same.symm, final⟩).symm
    · rw [if_neg same]
      have unchanged : finalCountAfter uniqueId frameId (finalCount uniqueId log frameId)
          (.received (.answered call result)) = finalCount uniqueId log frameId :=
        if_neg fun ⟨_, isFrame, _⟩ => same isFrame.symm
      rw [unchanged]
      refine tracks.counts frameId memFrame fun other memOther oursOther => ?_
      by_cases isCall : other = call
      · rw [isCall]
        exact Ne.symm same
      · exact unanswered other ((List.mem_erase_of_ne isCall).mpr memOther) oursOther

theorem step_answered (canCall : FrameId → Bool) (manager : FindInPageManager FrameId)
    (call : FrameCall FrameId) (result : FrameResult) :
    step canCall manager (.answered call result) = some
      ((FindInPageManager.processFindInPageResult canCall
          { manager with calls := manager.calls.erase call } call result).1,
        .received (.answered call result) ::
          (FindInPageManager.processFindInPageResult canCall
            { manager with calls := manager.calls.erase call } call result).2) :=
  rfl

/-- What a step of a search reports: nothing, unless it is the answer that ends the search. -/
inductive Reports (uniqueId : Nat) (after : FindInPageManager FrameId) (query : String) :
    Input FrameId → List (Output FrameId) → Prop where
  | quiet {input : Input FrameId}
      (unfinished : isAnswer uniqueId (.received input : Output FrameId) = true →
        isPending uniqueId (.received input : Output FrameId) = false →
        after.pendingFrameCallCount ≠ 0) :
      Reports uniqueId after query input []
  | done {call : FrameCall FrameId} {result : FrameResult} (ours : call.uniqueId = uniqueId)
      (none : after.pendingFrameCallCount = 0) :
      Reports uniqueId after query (.answered call result)
        [.didCountMatches after.frameMatchCount.total query]

/-- The step lemma of a search. -/
theorem Tracks.step (tracks : Tracks canCall uniqueId query frames log manager)
    (accepted : Accepts manager input) (undisturbed : Undisturbed input)
    (stepped : FindInPageManager.step canCall manager input = some (after, emitted)) :
    ∃ reports, emitted = .received input :: reports ∧
      Tracks canCall uniqueId query frames (log ++ [.received input]) after ∧
      Reports uniqueId after query input reports := by
  have sound : Sound after := tracks.toSound.step accepted stepped
  cases input with
  | find text options =>
    cases options with
    | findInPageSearch => exact undisturbed.elim
    | findInPageNext | findInPagePrevious =>
      cases stepped
      refine ⟨[], rfl, ?_, .quiet nofun⟩
      exact tracks.unanswered sound rfl rfl rfl rfl rfl rfl rfl tracks.counts
  | frameAvailable frameId isMainFrame =>
    cases stepped
    refine ⟨[], rfl, ?_, .quiet nofun⟩
    refine tracks.unanswered sound rfl rfl rfl rfl rfl rfl rfl fun other mem unanswered => ?_
    change (manager.frameMatchCount.set frameId 0).count other = if frameId = other then 0 else _
    rw [Counts.count_set]
    by_cases same : other = frameId
    · rw [if_pos same, if_pos same.symm]
    · rw [if_neg same, if_neg (Ne.symm same)]
      refine tracks.counts other ?_ unanswered
      exact (List.mem_append.mp mem).resolve_right fun isNew => same (List.mem_singleton.mp isNew)
  | frameUnavailable frameId =>
    cases stepped
    refine ⟨[], rfl, ?_, .quiet nofun⟩
    refine tracks.unanswered sound rfl rfl rfl rfl rfl rfl rfl fun other mem unanswered => ?_
    obtain ⟨mem, differs⟩ := List.mem_filter.mp mem
    change (manager.frameMatchCount.erase frameId).count other = _
    rw [Counts.count_erase, if_neg (of_decide_eq_true differs)]
    exact tracks.counts other mem unanswered
  | answered call result =>
    obtain ⟨mem, gone⟩ := accepted
    have processed : ({ manager with calls := manager.calls.erase call } :
        FindInPageManager FrameId).processFindInPageResult canCall call result = _ :=
      processFindInPageResult_eq (by exact gone)
    rw [step_answered, processed] at stepped
    by_cases ours : call.uniqueId = uniqueId
    · have active : ¬ (call.uniqueId ≠ manager.uniqueId ∨ manager.webStateExists = false) := by
        rw [ours, tracks.sameID, tracks.webStateExists]
        simp
      rw [if_neg active] at stepped
      by_cases pending : result = .number findInPagePending
      · cases stepped
        subst pending
        refine ⟨[], rfl, tracks.pumped mem ours sound, .quiet fun _ final => ?_⟩
        exact absurd ⟨ours, rfl⟩ (of_decide_eq_false final)
      · rw [if_neg pending] at stepped
        cases stepped
        refine ⟨_, rfl, tracks.settled mem ours pending sound, ?_⟩
        rw [(tracks.ours call mem ours).1]
        unfold reportIfDone
        split
        · rename_i none
          exact .done ours none
        · rename_i unfinished
          exact .quiet fun _ _ => unfinished
    · rw [if_pos (.inl (by rw [tracks.sameID]; exact ours))] at stepped
      cases stepped
      have notAnswer : isAnswer uniqueId (.received (.answered call result) :
          Output FrameId) = false := decide_eq_false ours
      refine ⟨[], rfl, ?_, .quiet fun isAnswered => absurd isAnswered (by rw [notAnswer]; nofun)⟩
      refine tracks.unanswered sound rfl rfl rfl ?_ notAnswer
        (decide_eq_false fun both => ours both.1) rfl fun frameId memFrame unanswered => ?_
      · simp [← List.erase_filter, ours]
      · rw [tracks.counts frameId memFrame unanswered]
        simp [finalCountAfter, ours]
  | webStateDestroyed => exact undisturbed.elim

/-- A search begins with a call of every frame. -/
theorem Tracks.start (sound : Sound manager) (webStateExists : manager.webStateExists = true)
    (accepted : ∀ frameId ∈ manager.frames, canCall frameId = true) :
    Tracks canCall (manager.uniqueId + 1) query manager.frames []
      (manager.find canCall query .findInPageSearch) := by
  have all : (manager.frames.filter fun frameId => canCall frameId) = manager.frames :=
    List.filter_eq_self.mpr accepted
  have begins : Sound (manager.find canCall query .findInPageSearch) :=
    sound.step (show Accepts manager (.find query .findInPageSearch) from webStateExists) rfl
  rw [find_search, all] at begins ⊢
  have old : ∀ call ∈ manager.calls, call.uniqueId ≠ manager.uniqueId + 1 :=
    fun call mem => Nat.ne_of_lt (Nat.lt_succ_of_le (sound.calls call mem))
  refine ⟨begins, webStateExists, rfl, ?_, ?_, ?_, rfl, ?_⟩
  · grind [searchCall]
  · exact (Int.sub_zero _).symm
  · have none : manager.calls.countP (fun call => call.uniqueId = manager.uniqueId + 1) = 0 :=
      List.countP_eq_zero.mpr fun call mem => by simpa using old call mem
    simp [searchCall, none]
  · intro frameId mem unanswered
    exact absurd rfl (unanswered (searchCall query (manager.uniqueId + 1) frameId)
      (List.mem_append_right _ (List.mem_map_of_mem mem)) rfl)

/-- With no call outstanding, the counts add up to the final ones of the available frames. -/
theorem Tracks.total (tracks : Tracks canCall uniqueId query frames log manager)
    (answered : AllAnswered uniqueId manager) :
    manager.frameMatchCount.total = totalCount uniqueId frames log := by
  rw [Counts.total_eq_sum tracks.nodup fun frameId counted => ?_]
  · unfold totalCount
    rw [← tracks.available]
    refine congrArg List.sum (List.map_congr_left fun frameId mem => ?_)
    exact tracks.counts frameId mem fun call memCall ours => absurd ours (answered call memCall)
  · by_contra notMem
    exact counted (tracks.absent frameId notMem)

omit [DecidableEq FrameId] in
theorem allAnswered_iff : AllAnswered uniqueId manager ↔
    manager.calls.countP (fun call => call.uniqueId = uniqueId) = 0 := by
  simp [AllAnswered]

/-- As long as no frame is pending, the counter is the number of calls outstanding. -/
theorem Tracks.counter_eq (tracks : Tracks canCall uniqueId query frames log manager)
    (none : NonePending uniqueId log) :
    manager.pendingFrameCallCount = 0 ↔ AllAnswered uniqueId manager := by
  have counter := tracks.counter
  grind [NonePending, allAnswered_iff, outstanding]

end Search

theorem concat_eq_append_cons {α : Type} {init before rest : List α} {last element : α}
    (same : init ++ [last] = before ++ element :: rest) :
    (rest = [] ∧ last = element ∧ init = before) ∨
      ∃ middle, rest = middle ++ [last] ∧ init = before ++ element :: middle := by
  rcases List.eq_nil_or_concat' rest with rfl | ⟨middle, other, rfl⟩ <;> grind [List.append_inj']

/-! ## Runs -/

section Runs

variable {canCall : FrameId → Bool} {uniqueId : Nat} {query : String} {frames : List FrameId}
variable {log : List (Output FrameId)} {manager after : FindInPageManager FrameId}

omit [DecidableEq FrameId] in
variable {more : List (Output FrameId)}

theorem nonePending_append :
    NonePending uniqueId (log ++ more) ↔ NonePending uniqueId log ∧ NonePending uniqueId more := by
  simp [NonePending]

omit [DecidableEq FrameId] in
theorem silent_append : Silent (log ++ more) ↔ Silent log ∧ Silent more := by
  simp [Silent]

def Searches (manager : FindInPageManager FrameId) (input : Input FrameId) : Prop :=
  Accepts manager input ∧ Undisturbed input

variable (tracks : Tracks canCall uniqueId query frames [] manager)
include tracks

theorem run_tracks (run : Runs (step canCall) Searches manager log after) :
    Tracks canCall uniqueId query frames log after := by
  induction run with
  | start => exact tracks
  | next _ accepted stepped ih =>
    obtain ⟨_, rfl, kept, reported⟩ := ih.step accepted.1 accepted.2 stepped
    cases reported with
    | quiet _ => exact kept
    | done _ _ =>
      simpa using kept.report _ _

/-- The delegate is told something only when as many answers have come as there were frames. -/
theorem run_countsReported (run : Runs (step canCall) Searches manager log after)
    {before rest : List (Output FrameId)} {total : Int} {text : String}
    (split : log = before ++ .didCountMatches total text :: rest) :
    before.countP (isAnswer uniqueId) = frames.length := by
  induction run generalizing before rest with
  | start => exact absurd split (by simp)
  | next previous accepted stepped ih =>
    rename_i log emitted last next input
    obtain ⟨reports, rfl, kept, reported⟩ :=
      (run_tracks tracks previous).step accepted.1 accepted.2 stepped
    have earlier : ∀ {rest}, log ++ [.received input] =
        before ++ .didCountMatches total text :: rest →
        before.countP (isAnswer uniqueId) = frames.length := by
      grind [concat_eq_append_cons]
    cases reported with
    | quiet unfinished => exact earlier split
    | done ours none =>
      rw [List.append_cons] at split
      rcases concat_eq_append_cons split with ⟨-, -, rfl⟩ | ⟨middle, -, shorter⟩
      · have counter := kept.counter
        omega
      · exact earlier shorter

/-- While no frame is pending, a search is silent until all frames have answered, and then has
counted once. -/
theorem run_nonePending (nonempty : frames ≠ [])
    (run : Runs (step canCall) Searches manager log after) (none : NonePending uniqueId log) :
    (¬ AllAnswered uniqueId after ∧ Silent log) ∨
      (AllAnswered uniqueId after ∧ CountedOnce uniqueId query frames log) := by
  induction run with
  | start =>
    refine .inl ⟨fun answered => nonempty ?_, rfl⟩
    have outstanding := tracks.outstanding
    simpa [allAnswered_iff.mp answered] using outstanding.symm
  | next previous accepted stepped ih =>
    rename_i log emitted last next input
    have before := run_tracks tracks previous
    obtain ⟨reports, rfl, kept, reported⟩ := before.step accepted.1 accepted.2 stepped
    rw [List.append_cons] at none
    have noneKept : NonePending uniqueId (log ++ [.received input]) :=
      (nonePending_append.mp none).1
    obtain ⟨noneBefore, noneLast⟩ := nonePending_append.mp noneKept
    have outstanding := before.outstanding
    have remaining := kept.outstanding
    rw [noneBefore] at outstanding
    rw [noneKept, List.countP_append, List.countP_singleton] at remaining
    rcases ih noneBefore with ⟨unanswered, silent⟩ | ⟨answered, counted⟩
    · cases reported with
      | quiet unfinished =>
        refine .inl ⟨fun answered => unanswered ?_, ?_⟩
        · have notAnswer : isAnswer uniqueId (.received input : Output FrameId) = false := by
            refine Bool.eq_false_iff.mpr fun isAnswered => ?_
            have notPending := Bool.eq_false_iff.mpr (List.countP_eq_zero.mp noneLast _
              (List.mem_singleton_self _))
            exact unfinished isAnswered notPending ((kept.counter_eq noneKept).mpr answered)
          grind [allAnswered_iff]
        · exact silent_append.mpr ⟨silent, rfl⟩
      | done ours finished =>
        rename_i call result
        have answered := (kept.counter_eq noneKept).mp finished
        have isAnswered : isAnswer uniqueId
            (.received (.answered call result) : Output FrameId) = true := decide_eq_true ours
        grind [Silent, CountedOnce, kept.total answered]
    · rw [allAnswered_iff.mp answered] at outstanding
      have answeredNext : AllAnswered uniqueId next := by
        rw [allAnswered_iff]
        omega
      have notAnswer : isAnswer uniqueId (.received input : Output FrameId) = false := by
        grind
      cases reported with
      | quiet unfinished =>
        obtain ⟨early, answer, late, isAnswered, rfl, silentEarly, silentLate, noAnswer⟩ :=
          counted
        refine .inr ⟨answeredNext, early, answer, late ++ [.received input], isAnswered, ?_,
          silentEarly,
          by grind [Silent, isReport],
          ?_⟩
        · simp
        · simp [noAnswer, notAnswer]
      | done ours finished => exact absurd ours (of_decide_eq_false notAnswer)

/-- A search in which all frames have answered has counted once only if none was pending. -/
theorem nonePending_of_countedOnce (run : Runs (step canCall) Searches manager log after)
    (answered : AllAnswered uniqueId after) (counted : CountedOnce uniqueId query frames log) :
    NonePending uniqueId log := by
  obtain ⟨before, answer, _, _, split, -, -, noAnswer⟩ := counted
  have outstanding := (run_tracks tracks run).outstanding
  rw [List.append_cons] at split
  have reported := run_countsReported tracks run split
  rw [allAnswered_iff.mp answered, split, List.countP_append, List.countP_cons, noAnswer,
    reported] at outstanding
  rw [← split] at outstanding
  have notReport : isAnswer uniqueId (.didCountMatches
      (totalCount uniqueId frames (before ++ [answer])) query : Output FrameId) = false := rfl
  simpa [notReport, NonePending] using outstanding

omit tracks

/-- A search in all frames reports nothing before the last of them has finished and reports
the total once then, if and only if no frame answers that it has not finished. -/
theorem find_countedOnce_iff (canCall : FrameId → Bool) (earlier : List (Output FrameId))
    (manager : FindInPageManager FrameId)
    (reached : Runs (step canCall) Accepts initial earlier manager)
    (webStateExists : manager.webStateExists = true) (nonempty : manager.frames ≠ [])
    (accepted : ∀ frameId ∈ manager.frames, canCall frameId = true) (query : String)
    (log : List (Output FrameId)) (after : FindInPageManager FrameId)
    (run : Runs (step canCall) Searches (manager.find canCall query .findInPageSearch) log after) :
    (NonePending (manager.uniqueId + 1) log → ¬ AllAnswered (manager.uniqueId + 1) after →
        Silent log) ∧
      (AllAnswered (manager.uniqueId + 1) after →
        (CountedOnce (manager.uniqueId + 1) query manager.frames log ↔
          NonePending (manager.uniqueId + 1) log)) := by
  have tracks : Tracks canCall (manager.uniqueId + 1) query manager.frames []
      (manager.find canCall query .findInPageSearch) :=
    Tracks.start (run_sound reached) webStateExists accepted
  refine ⟨fun none unanswered => ?_, fun answered => ⟨?_, fun none => ?_⟩⟩
  · rcases run_nonePending tracks nonempty run none with ⟨-, silent⟩ | ⟨answered, -⟩ <;> grind
  · exact nonePending_of_countedOnce tracks run answered
  · rcases run_nonePending tracks nonempty run none with ⟨unanswered, -⟩ | ⟨-, counted⟩ <;> grind

end Runs

/-! ## Two searches -/

instance : Decidable (Undisturbed input) :=
  match input with
  | .find _ .findInPageSearch | .webStateDestroyed => isFalse id
  | .find _ .findInPageNext | .find _ .findInPagePrevious | .frameAvailable _ _
  | .frameUnavailable _ | .answered _ _ => isTrue trivial

instance : Decidable (Searches manager input) :=
  inferInstanceAs (Decidable (_ ∧ _))

def twoFrames : List (Input Nat) := [.frameAvailable 0 true, .frameAvailable 1 false]

def bothFinish : List (Input Nat) :=
  [.answered (searchCall "a" 1 1) (.number 2), .frameAvailable 2 false,
    .answered (searchCall "a" 1 0) (.number 3)]

theorem find_countedOnce_bothFinish :
    ∃ log, CountedOnce 1 "a" [0, 1] log ∧ .didCountMatches 5 "a" ∈ log := by
  have reached : Runs (step fun _ : Nat => true) Accepts initial _ _ :=
    Runs.replay twoFrames .start (Option.eq_some_of_isSome (by decide))
  have counted := find_countedOnce_iff _ _ _ reached (by decide) (by decide) (by decide) "a" _ _
    (Runs.replay bothFinish .start (Option.eq_some_of_isSome (by decide)))
  exact ⟨_, (counted.2 (by decide)).mpr (by decide), by decide⟩

/-- The only frame needs a second call. -/
def pendingFirst : List (Input Nat) :=
  [.answered (searchCall "a" 1 0) (.number findInPagePending),
    .answered { searchCall "a" 1 0 with function := .findInPagePump } (.number 2)]

theorem silent_of_countedOnce {uniqueId : Nat} {query : String} {frames : List FrameId}
    {log : List (Output FrameId)} (counted : CountedOnce uniqueId query frames log) :
    ¬ Silent log := by
  obtain ⟨before, answer, rest, -, rfl, -⟩ := counted
  intro silent
  have mem : Output.didCountMatches (totalCount uniqueId frames (before ++ [answer])) query ∈
      before ++ answer :: .didCountMatches
        (totalCount uniqueId frames (before ++ [answer])) query :: rest := by simp
  exact List.countP_eq_zero.mp silent _ mem rfl

/-- A search in a frame that is pending once never reports its count. -/
theorem find_pendingFirst :
    ∃ (earlier : List (Output Nat)) (manager : FindInPageManager Nat) (log : List (Output Nat))
      (after : FindInPageManager Nat),
      Runs (step fun _ => true) Accepts initial earlier manager ∧
        manager.webStateExists = true ∧ manager.frames = [0] ∧
        Runs (step fun _ => true) Searches
          (manager.find (fun _ => true) "a" .findInPageSearch) log after ∧
        AllAnswered (manager.uniqueId + 1) after ∧
        ¬ CountedOnce (manager.uniqueId + 1) "a" manager.frames log := by
  have reached : Runs (step fun _ : Nat => true) Accepts initial _ _ :=
    Runs.replay [.frameAvailable 0 true] .start (Option.eq_some_of_isSome (by decide))
  refine ⟨_, _, _, _, reached, by decide, by decide,
    Runs.replay pendingFirst .start (Option.eq_some_of_isSome (by decide)), by decide, ?_⟩
  exact fun counted => silent_of_countedOnce counted (by decide)

end FindInPageManager

end ChromiumIos
