import ChromiumIos.Fullscreen.FullscreenModel

/-!
# What a step does to the flags of the scroll

Most operations leave the flags of the current scroll as they are.  A reset clears the one that
says that there is a scroll and keeps the one that says that it is ignored.  Whatever is called
from where, the counter counts the notifications that are being delivered.
-/

namespace ChromiumIos.FullscreenModel

open Lib

variable {F : Type} [CGFloat F] {state after : State F} {outcome : Outcome F}

/-- The counters that are in scope while a notification is being delivered. -/
def Callback.weight : Callback → Nat
  | .progressOfDisabled => 2
  | _ => 1

/-- The counter counts the notifications that are being delivered. -/
def Counted (state : State F) : Prop :=
  state.observerCallbackCount = (state.callbacks.map Callback.weight).sum

/-- A step that leaves the flags as they are. -/
structure Steady (before after : State F) : Prop where
  scrolling : after.scrolling = before.scrolling
  ignoring : after.ignoringCurrentScroll = before.ignoringCurrentScroll
  counted : Counted before → Counted after

/-! ## Notifications -/

variable {input : Input F} {callbacks : List Callback} {callback : Callback}

section Notifications

omit [CGFloat F]

theorem Steady.refl : Steady state state := ⟨rfl, rfl, id⟩

theorem Steady.behind {last : State F} (second : Steady after last) (first : Steady state after) :
    Steady state last where
  scrolling := second.scrolling.trans first.scrolling
  ignoring := second.ignoring.trans first.ignoring
  counted := second.counted ∘ first.counted

theorem steady_notify (single : callback.weight = 1) : Steady state (notify callback state).1 where
  scrolling := rfl
  ignoring := rfl
  counted := fun counted => by
    unfold Counted notify at *
    grind

/-- The counter goes out of scope with the notification. -/
theorem steady_leave (delivering : state.callbacks = callback :: callbacks)
    (single : callback.weight = 1) : Steady state (leave callbacks state) where
  scrolling := rfl
  ignoring := rfl
  counted := fun counted => by
    unfold Counted leave at *
    grind

end Notifications

theorem steady_updateProgress : Steady state (updateProgress state).1 := by
  unfold updateProgress setProgress
  dsimp only
  split
  · exact .refl
  · exact (steady_notify rfl).behind ⟨rfl, rfl, id⟩

/-- What is left to do when the observers have returned. -/
theorem steady_resume (delivering : state.callbacks = callback :: callbacks) :
    Steady state (resume callbacks state callback).1 := by
  cases callback with
  | disabled =>
    unfold resume setProgress
    dsimp only
    split
    · have left : Steady (updateBaseOffset state) (leave callbacks (updateBaseOffset state)) :=
        steady_leave delivering rfl
      exact left.behind ⟨rfl, rfl, id⟩
    · refine ⟨rfl, rfl, fun counted => ?_⟩
      -- both the counter of this notification and that of the progress are in scope
      unfold Counted at *
      rw [delivering, List.map_cons, List.sum_cons] at counted
      rw [counted]
      exact Nat.add_right_comm _ _ _
  | progressOfDisabled =>
    refine ⟨rfl, rfl, fun counted => ?_⟩
    unfold Counted at *
    rw [delivering, List.map_cons, List.sum_cons] at counted
    change state.observerCallbackCount - 1 - 1 = _
    rw [counted]
    exact Nat.add_sub_cancel_left 2 _
  | resetForHeights => exact (steady_notify rfl).behind (steady_leave delivering rfl)
  | scrollStarted =>
    have left : Steady (updateBaseOffset state) (leave callbacks (updateBaseOffset state)) :=
      steady_leave delivering rfl
    exact left.behind ⟨rfl, rfl, id⟩
  | enabled => exact steady_leave delivering rfl
  | reset => exact steady_leave delivering rfl
  | heightsUpdated => exact steady_leave delivering rfl
  | progress => exact steady_leave delivering rfl
  | scrollEnded => exact steady_leave delivering rfl

/-! ## Operations -/

omit [CGFloat F] in
theorem steady_incrementDisabledCounter : Steady state (incrementDisabledCounter state).1 := by
  unfold incrementDisabledCounter
  dsimp only
  split
  · exact (steady_notify rfl).behind ⟨rfl, rfl, id⟩
  · exact ⟨rfl, rfl, id⟩

omit [CGFloat F] in
theorem steady_decrementDisabledCounter
    (decremented : decrementDisabledCounter state = some outcome) : Steady state outcome.1 := by
  obtain ⟨-, decremented⟩ := dcheck_then decremented
  dsimp only at decremented
  split at decremented
  · cases decremented
    exact (steady_notify rfl).behind ⟨rfl, rfl, id⟩
  · cases decremented
    exact ⟨rfl, rfl, id⟩

theorem steady_updateDisabledCounterForContentHeight
    (updated : updateDisabledCounterForContentHeight state = some outcome) :
    Steady state outcome.1 := by
  unfold updateDisabledCounterForContentHeight at updated
  dsimp only at updated
  split at updated
  · cases updated
    exact .refl
  · split at updated
    · cases updated
      exact steady_incrementDisabledCounter.behind ⟨rfl, rfl, id⟩
    · exact (steady_decrementDisabledCounter updated).behind ⟨rfl, rfl, id⟩

theorem steady_setYContentOffset {offset : F} :
    Steady state (setYContentOffset offset state).1 := by
  unfold setYContentOffset
  dsimp only
  split
  · exact ⟨rfl, rfl, id⟩
  · exact steady_updateProgress.behind ⟨rfl, rfl, id⟩
  · exact steady_updateProgress.behind ⟨rfl, rfl, id⟩
  · exact ⟨rfl, rfl, id⟩

omit [CGFloat F] in
theorem steady_setScrollViewIsDragging {dragging : Bool} :
    Steady state (setScrollViewIsDragging dragging state).1 := by
  unfold setScrollViewIsDragging
  split
  · exact .refl
  · split
    · exact (steady_notify rfl).behind ⟨rfl, rfl, id⟩
    · exact ⟨rfl, rfl, id⟩

/-! ## Operations that change the flags -/

/-- The step resets the model: a navigation, or another height of a toolbar. -/
def resets (state : State F) : Input F → Bool
  | .call .resetForNavigation => true
  | .call (.setCollapsedToolbarHeight height) =>
    !areCGFloatsEqual state.collapsedToolbarHeight height
  | .call (.setExpandedToolbarHeight height) =>
    !areCGFloatsEqual state.expandedToolbarHeight height
  | .call (.setBottomToolbarHeight height) =>
    !areCGFloatsEqual state.bottomToolbarHeight height
  | _ => false

def flagsAfter (state : State F) : Input F → Bool × Bool
  | .call .ignoreRemainderOfCurrentScroll =>
    (state.scrolling, state.scrolling || state.ignoringCurrentScroll)
  | .call (.setScrollViewIsScrolling scrolling) =>
    (scrolling, (scrolling || !state.scrolling) && state.ignoringCurrentScroll)
  | input => (state.scrolling && !resets state input, state.ignoringCurrentScroll)

/-- What a step does to the flags, and to the counter. -/
structure Flags (before : State F) (flags : Bool × Bool) (after : State F) : Prop where
  scrolling : after.scrolling = flags.1
  ignoring : after.ignoringCurrentScroll = flags.2
  counted : Counted before → Counted after

theorem Steady.flags (steady : Steady state after) (unset : resets state input = false)
    (plain : flagsAfter state input =
      (state.scrolling && !resets state input, state.ignoringCurrentScroll)) :
    Flags state (flagsAfter state input) after := by
  rw [plain, unset]
  exact ⟨by simp [steady.scrolling], steady.ignoring, steady.counted⟩

theorem flags_reset (single : callback.weight = 1) :
    Flags state (false, state.ignoringCurrentScroll) (reset callback state).1 :=
  ⟨rfl, rfl, (steady_notify single).counted⟩

theorem flags_setToolbarHeight {old height : F} {changed : State F}
    (updated : setToolbarHeight old height changed state = some outcome)
    (same : Steady state changed) :
    Flags state (state.scrolling && !!areCGFloatsEqual old height, state.ignoringCurrentScroll)
      outcome.1 := by
  unfold setToolbarHeight at updated
  split at updated
  case isTrue equal =>
    cases updated
    rw [equal]
    exact ⟨(Bool.and_true _).symm, rfl, id⟩
  case isFalse differs =>
    obtain ⟨-, updated⟩ := dcheck_then updated
    cases updated
    have changed : Flags changed (false, changed.ignoringCurrentScroll)
        (reset .resetForHeights changed).1 := flags_reset rfl
    rw [Bool.not_eq_true] at differs
    rw [differs, Bool.not_not, Bool.and_false]
    exact ⟨changed.scrolling, changed.ignoring.trans same.ignoring,
      changed.counted ∘ same.counted⟩

omit [CGFloat F] in
theorem flags_setScrollViewIsScrolling {scrolling : Bool} :
    Flags state (scrolling, (scrolling || !state.scrolling) && state.ignoringCurrentScroll)
      (setScrollViewIsScrolling scrolling state).1 := by
  unfold setScrollViewIsScrolling
  split
  case isTrue same =>
    refine ⟨same, ?_, id⟩
    cases scrolling <;> simp [same]
  case isFalse differs =>
    cases scrolling with
    | true => exact ⟨rfl, rfl, id⟩
    | false =>
      have was : state.scrolling = true := Bool.not_eq_false _ |>.mp differs
      refine ⟨rfl, ?_, fun counted => ?_⟩
      · rw [was]
        rfl
      · have told : Steady { state with scrolling := false, ignoringCurrentScroll := false }
            (notify .scrollEnded
              { state with scrolling := false, ignoringCurrentScroll := false }).1 :=
          steady_notify rfl
        exact told.counted counted

omit [CGFloat F] in
theorem flags_ignoreRemainderOfCurrentScroll :
    Flags state (state.scrolling, state.scrolling || state.ignoringCurrentScroll)
      (ignoreRemainderOfCurrentScroll state) := by
  unfold ignoreRemainderOfCurrentScroll
  split
  case isTrue scrolling => exact ⟨rfl, by rw [scrolling]; rfl, id⟩
  case isFalse still => exact ⟨rfl, by rw [Bool.not_eq_true _ |>.mp still]; rfl, id⟩

/-- What a step does to the flags of the scroll. -/
theorem step_flags {told : List Notification} (stepped : step state input = some (after, told)) :
    Flags state (flagsAfter state input) after := by
  cases input with
  | returned =>
    unfold step at stepped
    dsimp only at stepped
    split at stepped
    · cases stepped
    case h_2 callback callbacks delivering =>
      have resumed := steady_resume delivering
      simpa [Option.some.inj stepped] using resumed.flags rfl rfl
  | call call =>
    change perform state call = some (after, told) at stepped
    cases call with
    | incrementDisabledCounter =>
      have steady : Steady state (incrementDisabledCounter state).1 :=
        steady_incrementDisabledCounter
      rw [Option.some.inj stepped] at steady
      exact steady.flags rfl rfl
    | decrementDisabledCounter =>
      exact (steady_decrementDisabledCounter stepped).flags rfl rfl
    | resetForNavigation =>
      cases stepped
      have changed : Flags state (false, state.ignoringCurrentScroll) (reset .reset state).1 :=
        flags_reset rfl
      exact ⟨(Bool.and_false _).symm, rfl, changed.counted⟩
    | ignoreRemainderOfCurrentScroll =>
      cases stepped
      exact flags_ignoreRemainderOfCurrentScroll
    | animationEndedWithProgress _ =>
      obtain ⟨_, performed, result⟩ := Option.map_eq_some_iff.mp stepped
      cases result
      obtain ⟨-, performed⟩ := dcheck_then performed
      obtain ⟨-, performed⟩ := dcheck_then performed
      cases performed
      exact Steady.flags ⟨rfl, rfl, id⟩ rfl rfl
    | setCollapsedToolbarHeight height | setExpandedToolbarHeight height
    | setBottomToolbarHeight _ => exact flags_setToolbarHeight stepped ⟨rfl, rfl, id⟩
    | setScrollViewHeight height | setContentHeight height =>
      have updated : Steady state after :=
        (steady_updateDisabledCounterForContentHeight stepped).behind ⟨rfl, rfl, id⟩
      exact updated.flags rfl rfl
    | setTopContentInset inset | setScrollViewIsZooming zooming | setResizesScrollView resizes =>
      cases stepped
      exact Steady.flags ⟨rfl, rfl, id⟩ rfl rfl
    | setYContentOffset offset =>
      have steady : Steady state (setYContentOffset offset state).1 := steady_setYContentOffset
      rw [Option.some.inj stepped] at steady
      exact steady.flags rfl rfl
    | setScrollViewIsScrolling scrolling =>
      rw [← show (setScrollViewIsScrolling scrolling state).1 = after from
        congrArg Prod.fst (Option.some.inj stepped)]
      exact flags_setScrollViewIsScrolling
    | setScrollViewIsDragging dragging =>
      have steady : Steady state (setScrollViewIsDragging dragging state).1 :=
        steady_setScrollViewIsDragging
      rw [Option.some.inj stepped] at steady
      exact steady.flags rfl rfl
    | setWebViewSafeAreaInsets _ =>
      unfold perform setWebViewSafeAreaInsets at stepped
      dsimp only at stepped
      split at stepped
      · cases stepped
        exact Steady.refl.flags rfl rfl
      · have updated : Steady state after :=
          (steady_updateDisabledCounterForContentHeight stepped).behind ⟨rfl, rfl, id⟩
        exact updated.flags rfl rfl

end ChromiumIos.FullscreenModel
