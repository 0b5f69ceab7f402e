import ChromiumIos.FindInPage.FindInPageManager

/-!
# The frames that a search knows of

The manager keeps the counts of the frames and their order side by side.  A frame
that comes is put into both and a frame that goes is taken out of both, but a result
that comes late writes a count for its frame, whether it is still there or not.
-/

namespace ChromiumIos

open Lib

namespace FindInPageManager

variable {FrameId : Type} [DecidableEq FrameId]
variable {canCall : FrameId → Bool} {manager after : FindInPageManager FrameId}

structure ListsFrames (manager : FindInPageManager FrameId) : Prop where
  keys : ∀ frameId, frameId ∈ manager.frameMatchCount.keys ↔ frameId ∈ manager.frameOrder
  nodup : manager.frameOrder.Nodup
  available : ∀ frameId ∈ manager.frameOrder, frameId ∈ manager.frames

/-- A result that is not too late: that of an older search, or of a frame that is there. -/
def InTime (manager : FindInPageManager FrameId) : Input FrameId → Prop
  | .answered call _ =>
    call.uniqueId = manager.uniqueId → manager.webStateExists = true →
      call.frameId ∈ manager.frames
  | _ => True

/-! ## Steps -/

def OrdersFrames (manager : FindInPageManager FrameId) : Prop :=
  ∀ frameId ∈ manager.frames, frameId ∈ manager.frameOrder

omit [DecidableEq FrameId] in
/-- Calls of frames leave what is known of them. -/
theorem callJavaScriptFunction_keeps (canCall : FrameId → Bool)
    (manager : FindInPageManager FrameId) (call : FrameCall FrameId) :
    (manager.callJavaScriptFunction canCall call).frames = manager.frames ∧
      (manager.callJavaScriptFunction canCall call).frameOrder = manager.frameOrder ∧
      (manager.callJavaScriptFunction canCall call).frameMatchCount =
        manager.frameMatchCount := by
  unfold callJavaScriptFunction
  split <;> exact ⟨rfl, rfl, rfl⟩

omit [DecidableEq FrameId] in
theorem find_keeps (canCall : FrameId → Bool) (manager : FindInPageManager FrameId)
    (query : String) (options : FindInPageOptions) :
    (manager.find canCall query options).frames = manager.frames ∧
      (manager.find canCall query options).frameOrder = manager.frameOrder ∧
      (manager.find canCall query options).frameMatchCount = manager.frameMatchCount := by
  have loop : ∀ (frames : List FrameId) (call : FrameId → FrameCall FrameId)
      (started : FindInPageManager FrameId),
      (frames.foldl (fun called frameId => called.callJavaScriptFunction canCall (call frameId))
          started).frames = started.frames ∧
        (frames.foldl (fun called frameId => called.callJavaScriptFunction canCall (call frameId))
          started).frameOrder = started.frameOrder ∧
        (frames.foldl (fun called frameId => called.callJavaScriptFunction canCall (call frameId))
          started).frameMatchCount = started.frameMatchCount := by
    intro frames call
    induction frames with
    | nil => exact fun started => ⟨rfl, rfl, rfl⟩
    | cons _ _ _ =>
      grind [callJavaScriptFunction_keeps]
  cases options with
  | findInPageSearch => exact loop _ _ _
  | findInPageNext | findInPagePrevious => exact ⟨rfl, rfl, rfl⟩

/-- A result leaves the frames and their order, and it is counted for its frame if it is one of
the current search. -/
theorem processFindInPageResult_keeps (canCall : FrameId → Bool)
    (manager : FindInPageManager FrameId) (call : FrameCall FrameId) (result : FrameResult) :
    (manager.processFindInPageResult canCall call result).1.frames = manager.frames ∧
      (manager.processFindInPageResult canCall call result).1.frameOrder = manager.frameOrder ∧
      ((manager.processFindInPageResult canCall call result).1.frameMatchCount =
          manager.frameMatchCount ∧
        (call.uniqueId = manager.uniqueId → manager.webStateExists = true →
          call.frameId ∈ manager.frames) ∨
        (∃ count, (manager.processFindInPageResult canCall call result).1.frameMatchCount =
            manager.frameMatchCount.set call.frameId count) ∧
          call.uniqueId = manager.uniqueId ∧ manager.webStateExists = true) := by
  unfold processFindInPageResult
  split
  · next other => simp [other]
  next current =>
  have same : call.uniqueId = manager.uniqueId := not_not.mp current
  split
  · next gone =>
      grind
  next there =>
  grind [callJavaScriptFunction_keeps]

omit [DecidableEq FrameId] in
theorem ListsFrames.of_same (lists : manager.ListsFrames) (frames : after.frames = manager.frames)
    (order : after.frameOrder = manager.frameOrder)
    (counts : after.frameMatchCount = manager.frameMatchCount) : after.ListsFrames := by
  obtain ⟨keys, nodup, available⟩ := lists
  constructor
  · rw [counts, order]
    exact keys
  · rw [order]
    exact nodup
  · rw [order, frames]
    exact available

theorem ListsFrames.webFrameDidBecomeAvailable (lists : manager.ListsFrames) {frameId : FrameId}
    (new : frameId ∉ manager.frames) (isMainFrame : Bool) :
    (manager.webFrameDidBecomeAvailable frameId isMainFrame).ListsFrames := by
  have unordered : frameId ∉ manager.frameOrder := fun mem => new (lists.available frameId mem)
  have ordered : ∀ other,
      other ∈ (manager.webFrameDidBecomeAvailable frameId isMainFrame).frameOrder ↔
        other = frameId ∨ other ∈ manager.frameOrder := by
    grind [FindInPageManager.webFrameDidBecomeAvailable]
  constructor
  · intro other
    rw [ordered]
    change other ∈ (manager.frameMatchCount.set frameId 0).keys ↔ _
    rw [Counts.mem_keys_set, lists.keys]
  · grind [FindInPageManager.webFrameDidBecomeAvailable, lists.nodup]
  · grind [FindInPageManager.webFrameDidBecomeAvailable, lists.available]

theorem ListsFrames.webFrameWillBecomeUnavailable (lists : manager.ListsFrames)
    (frameId : FrameId) : (manager.webFrameWillBecomeUnavailable frameId).ListsFrames := by
  constructor
  · intro other
    change other ∈ (manager.frameMatchCount.erase frameId).keys ↔
      other ∈ manager.frameOrder.filter (· ≠ frameId)
    simp [Counts.mem_keys_erase, lists.keys]
  · exact lists.nodup.filter _
  · grind [FindInPageManager.webFrameWillBecomeUnavailable, lists.available]

/-- A result keeps the lists in step exactly when it is in time. -/
theorem ListsFrames.processFindInPageResult_iff (lists : manager.ListsFrames)
    (orders : manager.OrdersFrames) (call : FrameCall FrameId) (result : FrameResult) :
    (manager.processFindInPageResult canCall call result).1.ListsFrames ↔
      (call.uniqueId = manager.uniqueId → manager.webStateExists = true →
        call.frameId ∈ manager.frames) := by
  obtain ⟨frames, order, ⟨counts, inTime⟩ | ⟨⟨count, counts⟩, current, webState⟩⟩ :=
    processFindInPageResult_keeps canCall manager call result
  · grind [lists.of_same]
  · constructor
    · intro kept _ _
      have counted : call.frameId ∈ (manager.processFindInPageResult canCall call
          result).1.frameMatchCount.keys := by
        rw [counts]
        exact Counts.mem_keys_set.mpr (.inl rfl)
      grind [kept.available, kept.keys]
    · intro inTime
      have known := orders _ (inTime current webState)
      constructor
      · simp [counts, order, Counts.mem_keys_set, lists.keys, known]
      · rw [order]
        exact lists.nodup
      · rw [order, frames]
        exact lists.available

variable {inputs : List (Input FrameId)} {input : Input FrameId}
  {log emitted : List (Output FrameId)}

theorem step_listsFrames_iff (lists : manager.ListsFrames) (orders : manager.OrdersFrames)
    (accepted : manager.Accepts input)
    (stepped : manager.step canCall input = some (after, emitted)) :
    after.ListsFrames ↔ manager.InTime input := by
  cases input with
  | find query options =>
    cases stepped
    obtain ⟨frames, order, counts⟩ := find_keeps canCall manager query options
    exact ⟨fun _ => trivial, fun _ => lists.of_same frames order counts⟩
  | frameAvailable _ isMainFrame =>
    cases stepped
    exact ⟨fun _ => trivial, fun _ => lists.webFrameDidBecomeAvailable accepted isMainFrame⟩
  | frameUnavailable frameId =>
    cases stepped
    exact ⟨fun _ => trivial, fun _ => lists.webFrameWillBecomeUnavailable frameId⟩
  | answered call result =>
    cases stepped
    have taken : ListsFrames { manager with calls := manager.calls.erase call } :=
      lists.of_same rfl rfl rfl
    exact taken.processFindInPageResult_iff orders call result
  | webStateDestroyed =>
    cases stepped
    simp [InTime, lists.of_same]

/-- A frame stays in the order as long as it is there. -/
theorem step_ordersFrames (orders : manager.OrdersFrames)
    (stepped : manager.step canCall input = some (after, emitted)) : after.OrdersFrames := by
  unfold OrdersFrames at orders ⊢
  cases input with
  | find _ _ =>
    cases stepped
    grind [find_keeps]
  | frameAvailable _ _ =>
    cases stepped
    grind [webFrameDidBecomeAvailable]
  | frameUnavailable _ =>
    cases stepped
    grind [webFrameWillBecomeUnavailable]
  | answered call result =>
    cases stepped
    obtain ⟨frames, order, -⟩ := processFindInPageResult_keeps canCall
      { manager with calls := manager.calls.erase call } call result
    intro frameId mem
    change frameId ∈ (processFindInPageResult canCall _ call result).1.frameOrder
    rw [order]
    change frameId ∈ (processFindInPageResult canCall _ call result).1.frames at mem
    rw [frames] at mem
    exact orders frameId mem
  | webStateDestroyed =>
    cases stepped
    exact orders

/-! ## Runs -/

/-- Offer events to a new manager. -/
def run (canCall : FrameId → Bool) (inputs : List (Input FrameId)) :
    Checked (FindInPageManager FrameId × List (Output FrameId)) :=
  replay? (step canCall) Accepts initial inputs

def KeepsLists (canCall : FrameId → Bool) (inputs : List (Input FrameId)) : Prop :=
  ∀ before manager log, before <+: inputs → run canCall before = some (manager, log) →
    manager.ListsFrames

/-- No event comes too late for the state it finds. -/
def AllInTime (canCall : FrameId → Bool) (inputs : List (Input FrameId)) : Prop :=
  ∀ before input manager log, before ++ [input] <+: inputs →
    run canCall before = some (manager, log) → manager.Accepts input → manager.InTime input

theorem run_ordersFrames (reached : run canCall inputs = some (manager, log)) :
    manager.OrdersFrames :=
  (Runs.replay inputs .start reached).invariant OrdersFrames (fun _ mem => by cases mem)
    fun orders _ stepped => step_ordersFrames orders stepped

theorem run_listsFrames {before : List (Input FrameId)} (inTime : AllInTime canCall inputs)
    (within : before <+: inputs) (reached : run canCall before = some (manager, log)) :
    manager.ListsFrames := by
  induction before using List.reverseRecOn generalizing manager log with
  | nil =>
    cases reached
    exact ⟨fun _ => Iff.rfl, List.nodup_nil, fun _ mem => by cases mem⟩
  | append_singleton before input ih =>
    obtain ⟨middle, told, _, earlier, accepted, stepped, -⟩ :=
      replay?_concat_eq_some reached
    have lists := ih ((List.prefix_append before [input]).trans within) earlier
    exact (step_listsFrames_iff lists (run_ordersFrames earlier) accepted stepped).mpr
      (inTime before input middle told within earlier accepted)

/-- The counts and the order of the frames are in step after every event exactly when no result
of the current search comes for a frame that is gone. -/
theorem keepsLists_iff (canCall : FrameId → Bool) (inputs : List (Input FrameId)) :
    KeepsLists canCall inputs ↔ AllInTime canCall inputs := by
  constructor
  · intro keeps before input manager log within reached accepted
    have lists := keeps before manager log
      ((List.prefix_append before [input]).trans within) reached
    obtain ⟨⟨after, emitted⟩, stepped⟩ :
        ∃ result, manager.step canCall input = some result := ⟨_, rfl⟩
    have next := replay?_concat reached accepted stepped
    exact (step_listsFrames_iff lists (run_ordersFrames reached) accepted stepped).mp
      (keeps _ _ _ within next)
  · grind [KeepsLists, run_listsFrames]

/-- A frame goes while a search waits for its result, which is null then. -/
def frameGone : List (Input Nat) :=
  [.frameAvailable 7 true, .find "word" .findInPageSearch, .frameUnavailable 7,
    .answered ⟨.findInPageSearch, "word", 7, 1⟩ .null]

theorem not_keepsLists_frameGone : ¬ KeepsLists (fun _ => true) frameGone := by
  intro keeps
  obtain ⟨⟨manager, log⟩, reached, counted⟩ : ∃ result,
      run (fun _ => true) frameGone = some result ∧
        result.1.frameMatchCount.keys = [7] ∧ result.1.frameOrder = [] := ⟨_, rfl, rfl, rfl⟩
  have lists := keeps frameGone manager log (List.prefix_refl _) reached
  grind [List.mem_cons_self, lists.keys]

end FindInPageManager

end ChromiumIos
