import ChromiumIos.Fullscreen.IgnoredScrolls

/-!
# Content that fits

The model is disabled while the content fits into the view, as one more reason beside those that
are counted explicitly.  Whether it fits is decided again when the heights of the content and of
the view and the insets are set, but not when the height of a toolbar or the way of resizing is.
-/

namespace ChromiumIos.FullscreenModel

open Lib

variable {F : Type} [CGFloat F] {state after : State F} {outcome : Outcome F}

/-! ## What is counted -/

section Counting

omit [CGFloat F]

def explicitChange : Input F → Int
  | .call .incrementDisabledCounter => 1
  | .call .decrementDisabledCounter => -1
  | _ => 0

/-- The calls to increment the counter that have not been taken back. -/
def outstanding (inputs : List (Input F)) : Int :=
  (inputs.map explicitChange).sum

theorem outstanding_concat (inputs : List (Input F)) (input : Input F) :
    outstanding (inputs ++ [input]) = outstanding inputs + explicitChange input := by
  simp [outstanding]

def shortContentCount (state : State F) : Int :=
  if state.disabledForShortContent then 1 else 0

end Counting

def TracksContent (inputs : List (Input F)) : Prop :=
  ∀ before state, before <+: inputs → run before = some state →
    state.disabledForShortContent = disablesForContentHeight state ∧
      (state.disabledCounter : Int) = outstanding before + shortContentCount state

/-- Both heights have been received, and the content fits below one of two thresholds only. -/
def isBetween (state : State F) (threshold other : F) : Bool :=
  !areCGFloatsEqual state.contentHeight 0 && !areCGFloatsEqual state.scrollViewHeight 0 &&
    (CGFloat.le state.contentHeight threshold != CGFloat.le state.contentHeight other)

/-- The step moves the threshold past the content without a look at it. -/
def passesContent (state : State F) : Input F → Bool
  | .call (.setExpandedToolbarHeight height) =>
    !areCGFloatsEqual state.expandedToolbarHeight height &&
      isBetween state (disablingThreshold state)
        (disablingThreshold { state with expandedToolbarHeight := height })
  | .call (.setBottomToolbarHeight height) =>
    !areCGFloatsEqual state.bottomToolbarHeight height &&
      isBetween state (disablingThreshold state)
        (disablingThreshold { state with bottomToolbarHeight := height })
  | .call (.setResizesScrollView resizes) =>
    isBetween state (disablingThreshold state)
      (disablingThreshold { state with resizesScrollView := resizes })
  | _ => false

/-- No step moves the threshold past the content without a look at it. -/
def LooksAtContent (inputs : List (Input F)) : Prop :=
  ∀ before input state after, before ++ [input] <+: inputs → run before = some state →
    run (before ++ [input]) = some after → passesContent state input = false

/-! ## Steps that leave the heights alone -/

/-- A step that leaves alone what the counter and the threshold are made of. -/
structure Undisturbed (before after : State F) : Prop where
  contentHeight : after.contentHeight = before.contentHeight
  scrollViewHeight : after.scrollViewHeight = before.scrollViewHeight
  threshold : disablingThreshold after = disablingThreshold before
  short : after.disabledForShortContent = before.disabledForShortContent
  counter : after.disabledCounter = before.disabledCounter

theorem Undisturbed.refl : Undisturbed state state := ⟨rfl, rfl, rfl, rfl, rfl⟩

theorem Undisturbed.behind {last : State F} (second : Undisturbed after last)
    (first : Undisturbed state after) : Undisturbed state last where
  contentHeight := second.contentHeight.trans first.contentHeight
  scrollViewHeight := second.scrollViewHeight.trans first.scrollViewHeight
  threshold := second.threshold.trans first.threshold
  short := second.short.trans first.short
  counter := second.counter.trans first.counter

theorem Undisturbed.disables (same : Undisturbed state after) :
    disablesForContentHeight after = disablesForContentHeight state := by
  unfold disablesForContentHeight
  rw [same.contentHeight, same.scrollViewHeight, same.threshold]

theorem undisturbed_updateProgress : Undisturbed state (updateProgress state).1 := by
  unfold updateProgress setProgress
  dsimp only
  split
  · exact .refl
  · exact ⟨rfl, rfl, rfl, rfl, rfl⟩

theorem undisturbed_resume {callback : Callback} {callbacks : List Callback} :
    Undisturbed state (resume callbacks state callback).1 := by
  cases callback with
  | disabled =>
    unfold resume setProgress
    dsimp only
    split
    · exact ⟨rfl, rfl, rfl, rfl, rfl⟩
    · exact ⟨rfl, rfl, rfl, rfl, rfl⟩
  | progressOfDisabled | resetForHeights | scrollStarted | enabled | reset | heightsUpdated
  | progress | scrollEnded => exact ⟨rfl, rfl, rfl, rfl, rfl⟩

theorem undisturbed_setYContentOffset {offset : F} :
    Undisturbed state (setYContentOffset offset state).1 := by
  unfold setYContentOffset
  dsimp only
  split
  · exact ⟨rfl, rfl, rfl, rfl, rfl⟩
  · exact undisturbed_updateProgress.behind ⟨rfl, rfl, rfl, rfl, rfl⟩
  · exact undisturbed_updateProgress.behind ⟨rfl, rfl, rfl, rfl, rfl⟩
  · exact ⟨rfl, rfl, rfl, rfl, rfl⟩

theorem undisturbed_setScrollViewIsScrolling {scrolling : Bool} :
    Undisturbed state (setScrollViewIsScrolling scrolling state).1 := by
  unfold setScrollViewIsScrolling
  split_ifs
  · exact .refl
  · exact ⟨rfl, rfl, rfl, rfl, rfl⟩
  · exact ⟨rfl, rfl, rfl, rfl, rfl⟩

theorem undisturbed_setScrollViewIsDragging {dragging : Bool} :
    Undisturbed state (setScrollViewIsDragging dragging state).1 := by
  unfold setScrollViewIsDragging
  dsimp only
  split_ifs
  · exact .refl
  · exact ⟨rfl, rfl, rfl, rfl, rfl⟩
  · exact ⟨rfl, rfl, rfl, rfl, rfl⟩

/-! ## Changes of the counter -/

theorem incrementDisabledCounter_counts :
    (incrementDisabledCounter state).1.disabledCounter = state.disabledCounter + 1 ∧
      (incrementDisabledCounter state).1.disabledForShortContent = state.disabledForShortContent ∧
      disablesForContentHeight (incrementDisabledCounter state).1 =
        disablesForContentHeight state := by
  unfold incrementDisabledCounter
  dsimp only
  split
  · exact ⟨rfl, rfl, rfl⟩
  · exact ⟨rfl, rfl, rfl⟩

theorem decrementDisabledCounter_counts
    (decremented : decrementDisabledCounter state = some outcome) :
    outcome.1.disabledCounter + 1 = state.disabledCounter ∧
      outcome.1.disabledForShortContent = state.disabledForShortContent ∧
      disablesForContentHeight outcome.1 = disablesForContentHeight state := by
  obtain ⟨positive, decremented⟩ := dcheck_then decremented
  have back : state.disabledCounter - 1 + 1 = state.disabledCounter :=
    Nat.sub_add_cancel positive
  dsimp only at decremented
  split at decremented
  · cases decremented
    exact ⟨back, rfl, rfl⟩
  · cases decremented
    exact ⟨back, rfl, rfl⟩

/-- The content is looked at, and the counter follows. -/
structure Updates (before after : State F) : Prop where
  short : after.disabledForShortContent = disablesForContentHeight after
  counter : (after.disabledCounter : Int) - shortContentCount after =
    before.disabledCounter - shortContentCount before

theorem updateDisabledCounterForContentHeight_updates
    (updated : updateDisabledCounterForContentHeight state = some outcome) :
    Updates state outcome.1 := by
  unfold updateDisabledCounterForContentHeight at updated
  dsimp only at updated
  split at updated
  case isTrue same =>
    cases updated
    exact ⟨same, rfl⟩
  case isFalse differs =>
    split at updated
    case isTrue disable =>
      cases updated
      obtain ⟨counter, short, disables⟩ := @incrementDisabledCounter_counts F _
        { state with disabledForShortContent := disablesForContentHeight state }
      refine ⟨short.trans disables.symm, ?_⟩
      have was : state.disabledForShortContent = false := by
        simpa [disable] using differs
      unfold shortContentCount
      rw [counter, short, disable, was]
      simp
    case isFalse enable =>
      obtain ⟨counter, short, disables⟩ := decrementDisabledCounter_counts updated
      refine ⟨short.trans disables.symm, ?_⟩
      unfold shortContentCount
      grind

/-! ## One step -/

/-- What a step does to the counter, and when it keeps what the content decides. -/
structure Counts (before : State F) (input : Input F) (after : State F) : Prop where
  counter : (after.disabledCounter : Int) - shortContentCount after =
    before.disabledCounter - shortContentCount before + explicitChange input
  short : before.disabledForShortContent = disablesForContentHeight before →
    (after.disabledForShortContent = disablesForContentHeight after ↔
      passesContent before input = false)

variable {input : Input F} {changed : State F}

theorem Undisturbed.counts (same : Undisturbed state after) (implicit : explicitChange input = 0)
    (beside : passesContent state input = false) : Counts state input after where
  counter := by
    simp [shortContentCount, same.counter, same.short, implicit]
  short := fun tracked => by
    simp [same.short, same.disables, tracked, beside]

theorem Updates.counts (updates : Updates state after) (implicit : explicitChange input = 0)
    (beside : passesContent state input = false) : Counts state input after where
  counter := by rw [updates.counter, implicit, Int.add_zero]
  short := fun _ => iff_of_true updates.short beside

/-- The content is beyond one of two thresholds only where it decides differently. -/
theorem isBetween_eq_false_iff (contentHeight : changed.contentHeight = state.contentHeight)
    (scrollViewHeight : changed.scrollViewHeight = state.scrollViewHeight) :
    isBetween state (disablingThreshold state) (disablingThreshold changed) = false ↔
      disablesForContentHeight state = disablesForContentHeight changed := by
  unfold isBetween disablesForContentHeight
  grind

/-- A setter that changes the threshold only. -/
theorem counts_of_changed (contentHeight : changed.contentHeight = state.contentHeight)
    (scrollViewHeight : changed.scrollViewHeight = state.scrollViewHeight)
    (short : changed.disabledForShortContent = state.disabledForShortContent)
    (counter : changed.disabledCounter = state.disabledCounter) (same : Undisturbed changed after)
    (implicit : explicitChange input = 0)
    (passes : passesContent state input =
      isBetween state (disablingThreshold state) (disablingThreshold changed)) :
    Counts state input after where
  counter := by
    unfold shortContentCount
    rw [same.counter, same.short, counter, short, implicit, Int.add_zero]
  short := fun tracked => by
    rw [same.short, same.disables, short, tracked, passes,
      isBetween_eq_false_iff contentHeight scrollViewHeight]

theorem counts_setToolbarHeight {old height : F}
    (updated : setToolbarHeight old height changed state = some outcome)
    (contentHeight : changed.contentHeight = state.contentHeight)
    (scrollViewHeight : changed.scrollViewHeight = state.scrollViewHeight)
    (short : changed.disabledForShortContent = state.disabledForShortContent)
    (counter : changed.disabledCounter = state.disabledCounter)
    (implicit : explicitChange input = 0)
    (passes : passesContent state input = (!areCGFloatsEqual old height &&
      isBetween state (disablingThreshold state) (disablingThreshold changed))) :
    Counts state input outcome.1 := by
  unfold setToolbarHeight at updated
  split at updated
  case isTrue equal =>
    cases updated
    refine Undisturbed.refl.counts implicit ?_
    rw [passes, equal]
    rfl
  case isFalse differs =>
    obtain ⟨-, updated⟩ := dcheck_then updated
    have reset : Undisturbed changed (reset .resetForHeights changed).1 :=
      ⟨rfl, rfl, rfl, rfl, rfl⟩
    grind [counts_of_changed]

/-- What a step does to the counter, and when it keeps what the content decides. -/
theorem step_counts {told : List Notification} (stepped : step state input = some (after, told)) :
    Counts state input after := by
  cases input with
  | returned =>
    unfold step at stepped
    dsimp only at stepped
    split at stepped
    · cases stepped
    case h_2 callback callbacks delivering =>
      have resumed : Undisturbed state (resume callbacks state callback).1 :=
        undisturbed_resume
      simpa [Option.some.inj stepped] using resumed.counts rfl rfl
  | call call =>
    change perform state call = some (after, told) at stepped
    cases call with
    | incrementDisabledCounter =>
      obtain ⟨counter, short, disables⟩ := @incrementDisabledCounter_counts F _ state
      rw [show incrementDisabledCounter state = (after, told) from
        Option.some.inj stepped] at counter short disables
      refine ⟨?_, fun tracked => ?_⟩
      · unfold shortContentCount
        grind [explicitChange]
      · rw [short, disables]
        exact iff_of_true tracked rfl
    | decrementDisabledCounter =>
      obtain ⟨counter, short, disables⟩ := decrementDisabledCounter_counts stepped
      refine ⟨?_, fun tracked => ?_⟩
      · unfold shortContentCount
        grind [explicitChange]
      · rw [short, disables]
        exact iff_of_true tracked rfl
    | resetForNavigation | setTopContentInset inset | setScrollViewIsZooming zooming =>
      cases stepped
      exact Undisturbed.counts ⟨rfl, rfl, rfl, rfl, rfl⟩ rfl rfl
    | ignoreRemainderOfCurrentScroll =>
      cases stepped
      refine Undisturbed.counts ?_ rfl rfl
      unfold ignoreRemainderOfCurrentScroll
      split
      · exact ⟨rfl, rfl, rfl, rfl, rfl⟩
      · exact .refl
    | animationEndedWithProgress _ =>
      obtain ⟨_, performed, result⟩ := Option.map_eq_some_iff.mp stepped
      cases result
      obtain ⟨-, performed⟩ := dcheck_then performed
      obtain ⟨-, performed⟩ := dcheck_then performed
      cases performed
      exact Undisturbed.counts ⟨rfl, rfl, rfl, rfl, rfl⟩ rfl rfl
    | setCollapsedToolbarHeight _ =>
      refine counts_setToolbarHeight stepped rfl rfl rfl rfl rfl ?_
      simp [passesContent, isBetween, disablingThreshold]
    | setExpandedToolbarHeight height | setBottomToolbarHeight height =>
      exact counts_setToolbarHeight stepped rfl rfl rfl rfl rfl rfl
    | setScrollViewHeight height | setContentHeight height =>
      have updated := updateDisabledCounterForContentHeight_updates stepped
      exact Updates.counts ⟨updated.short, updated.counter⟩ rfl rfl
    | setYContentOffset offset =>
      have same : Undisturbed state (setYContentOffset offset state).1 :=
        undisturbed_setYContentOffset
      rw [Option.some.inj stepped] at same
      exact same.counts rfl rfl
    | setScrollViewIsScrolling scrolling =>
      have same : Undisturbed state (setScrollViewIsScrolling scrolling state).1 :=
        undisturbed_setScrollViewIsScrolling
      rw [Option.some.inj stepped] at same
      exact same.counts rfl rfl
    | setScrollViewIsDragging dragging =>
      have same : Undisturbed state (setScrollViewIsDragging dragging state).1 :=
        undisturbed_setScrollViewIsDragging
      rw [Option.some.inj stepped] at same
      exact same.counts rfl rfl
    | setResizesScrollView resizes =>
      cases stepped
      have same : Undisturbed (setResizesScrollView resizes state)
          (setResizesScrollView resizes state) := .refl
      refine counts_of_changed ?_ ?_ ?_ ?_ same rfl ?_ <;> rfl
    | setWebViewSafeAreaInsets _ =>
      unfold perform setWebViewSafeAreaInsets at stepped
      dsimp only at stepped
      split at stepped
      · cases stepped
        exact Undisturbed.refl.counts rfl rfl
      · have updated := updateDisabledCounterForContentHeight_updates stepped
        exact Updates.counts ⟨updated.short, updated.counter⟩ rfl rfl

/-! ## Runs -/

/-- The counter counts the reasons in every state of every run. -/
theorem run_counter {inputs : List (Input F)} (reached : run inputs = some state) :
    (state.disabledCounter : Int) = outstanding inputs + shortContentCount state := by
  induction inputs using List.reverseRecOn generalizing state with
  | nil =>
    cases reached
    rfl
  | append_singleton _ _ ih =>
    obtain ⟨middle, told, earlier, stepped⟩ := run_concat_eq_some.mp reached
    have counted := (step_counts stepped).counter
    have before := ih earlier
    rw [outstanding_concat]
    omega

/-- The content decides as long as every step looks at it that moves the threshold past it. -/
theorem run_short {inputs before : List (Input F)}
    (zero : areCGFloatsEqual (0 : F) 0 = true) (looks : LooksAtContent inputs)
    (within : before <+: inputs) (reached : run before = some state) :
    state.disabledForShortContent = disablesForContentHeight state := by
  induction before using List.reverseRecOn generalizing state with
  | nil =>
    cases reached
    simp [disablesForContentHeight, initial, zero]
  | append_singleton before input ih =>
    obtain ⟨middle, _, earlier, stepped⟩ := run_concat_eq_some.mp reached
    have tracked := ih ((List.prefix_append before [input]).trans within) earlier
    exact ((step_counts stepped).short tracked).mpr
      (looks before input middle state within earlier reached)

/-- The model follows the content exactly when every step looks at it that moves the threshold
past it. -/
theorem tracksContent_iff (zero : areCGFloatsEqual (0 : F) 0 = true) (inputs : List (Input F)) :
    TracksContent inputs ↔ LooksAtContent inputs := by
  constructor
  · intro tracks before input state after within reached ended
    obtain ⟨middle, told, earlier, stepped⟩ := run_concat_eq_some.mp ended
    cases reached.symm.trans earlier
    have tracked := tracks before state ((List.prefix_append before [input]).trans within) reached
    exact ((step_counts stepped).short tracked.1).mp (tracks _ after within ended).1
  · grind [TracksContent, run_short, run_counter]

/-! ## A toolbar that grows -/

def longerPage : List (Input Whole) :=
  [.call (.setScrollViewHeight (some 80)), .call (.setContentHeight (some 100))]

theorem tracksContent_iff_longerPage : TracksContent longerPage := by
  refine (tracksContent_iff rfl longerPage).mpr ?_
  intro before input state after within reached ended
  have mem : input ∈ longerPage := within.subset (by simp)
  simp only [longerPage, List.mem_cons, List.not_mem_nil, or_false] at mem
  obtain rfl | rfl := mem <;> rfl

def grownToolbar : List (Input Whole) :=
  longerPage ++ [.call (.setResizesScrollView true), .call (.setExpandedToolbarHeight (some 50))]

theorem not_tracksContent_grownToolbar : ¬ TracksContent grownToolbar := by
  intro tracks
  have grown : (run grownToolbar).map (fun state =>
      (state.disabledForShortContent, disablesForContentHeight state)) = some (false, true) := rfl
  obtain ⟨state, reached, decided⟩ := Option.map_eq_some_iff.mp grown
  obtain ⟨enabled, disables⟩ := Prod.mk.inj decided
  have same := (tracks _ state (List.prefix_refl _) reached).1
  rw [enabled, disables] at same
  cases same

/-! ## The toolbar of a disabled model -/

/-- The toolbar of a disabled model is shown once the observers have been told. -/
def Shows (state : State F) : Prop :=
  state.disabledCounter = 0 ∨ .disabled ∈ state.callbacks ∨ state.progress = 1 ∨
    areCGFloatsEqual state.progress 1 = true

theorem shows_updateCounter (updated : updateDisabledCounterForContentHeight state = some outcome)
    (shows : Shows state) : Shows outcome.1 := by
  unfold updateDisabledCounterForContentHeight at updated
  grind [Shows, notify, incrementDisabledCounter, decrementDisabledCounter, dcheck_then]

theorem shows_perform {call : Call F} (shows : Shows state)
    (ends : ∀ progress, call = .animationEndedWithProgress progress →
      Shows { state with progress := progress })
    (performed : perform state call = some outcome) : Shows outcome.1 := by
  cases call with
  | setScrollViewHeight | setContentHeight =>
    exact shows_updateCounter performed shows
  | setWebViewSafeAreaInsets =>
    simp only [perform, setWebViewSafeAreaInsets] at performed
    grind [Shows, shows_updateCounter]
  | animationEndedWithProgress =>
    obtain ⟨_, ended, rfl⟩ := Option.map_eq_some_iff.mp performed
    obtain ⟨-, ended⟩ := dcheck_then ended
    obtain ⟨-, ended⟩ := dcheck_then ended
    cases ended
    exact ends _ rfl
  | setYContentOffset =>
    cases performed
    -- a scroll moves the toolbar of an enabled model only
    grind [Shows, setYContentOffset, actionForScrollFromOffset, State.enabled, updateProgress,
      setProgress, notify, updateBaseOffset]
  | _ =>
    grind [Shows, perform, notify, incrementDisabledCounter, decrementDisabledCounter, reset,
      resetForNavigation, ignoreRemainderOfCurrentScroll, setToolbarHeight,
      setCollapsedToolbarHeight, setExpandedToolbarHeight, setBottomToolbarHeight,
      setTopContentInset, setScrollViewIsScrolling, setScrollViewIsZooming,
      setScrollViewIsDragging, setResizesScrollView, dcheck_then]

/-- Whatever the observers call, the toolbar of a disabled model is shown as long as animations
that end have shown it. -/
theorem run_shows {inputs : List (Input F)} (less : CGFloat.lt (0 : F) 1 = true)
    (ends : ∀ before progress state,
      before ++ [.call (.animationEndedWithProgress progress)] <+: inputs →
        run before = some state → Shows { state with progress := progress })
    (reached : run inputs = some state) : Shows state := by
  induction inputs using List.reverseRecOn generalizing state with
  | nil =>
    cases reached
    exact .inl rfl
  | append_singleton inputs input ih =>
    obtain ⟨middle, told, earlier, stepped⟩ := run_concat_eq_some.mp reached
    have shows := ih (fun _ _ _ within => ends _ _ _ (within.trans (List.prefix_append ..))) earlier
    cases input with
    | call =>
      refine shows_perform shows (fun progress same => ?_) stepped
      exact ends _ progress _ (same ▸ List.prefix_refl _) earlier
    | returned =>
      simp only [step] at stepped
      split at stepped
      · cases stepped
      next callback callbacks delivering =>
        cases callback <;>
          grind [Shows, resume, setProgress, stdMax, stdMin, leave, notify, updateBaseOffset]

def hiddenToolbar : List (Input Whole) :=
  ignoredScroll.dropLast ++
    [.call (.setYContentOffset (some 10)), .call (.setYContentOffset (some 60)), .returned,
      .call .incrementDisabledCounter, .returned]

theorem run_shows_hiddenToolbar : Shows ((run hiddenToolbar).getD initial) := by
  have still : ∀ progress, .call (.animationEndedWithProgress progress) ∉ hiddenToolbar := by
    simp [hiddenToolbar, ignoredScroll]
  exact run_shows rfl (fun _ progress _ within => (still progress (within.subset (by simp))).elim)
    (rfl : run hiddenToolbar = some _)

end ChromiumIos.FullscreenModel
