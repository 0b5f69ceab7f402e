import ChromiumIos.Fullscreen.ScrollFlags

/-!
# Scrolls that are ignored

The rest of a scroll is ignored until the scroll view says that it has stopped scrolling.  When
the model is reset in between, that message finds nothing to stop, and the next scroll is
ignored as well.
-/

namespace ChromiumIos.FullscreenModel

open Lib

variable {F : Type} [CGFloat F] {state : State F} {inputs : List (Input F)}

def IgnoresOnlyScrolls (inputs : List (Input F)) : Prop :=
  ∀ before state, before <+: inputs → run before = some state →
    state.ignoringCurrentScroll = true → state.scrolling = true

/-- A scroll that begins is ignored only for where it is, until the rest of it is to be
ignored. -/
def HearsNewScrolls (inputs : List (Input F)) : Prop :=
  ∀ before state during last, run before = some state → state.scrolling = false →
    before ++ .call (.setScrollViewIsScrolling true) :: during <+: inputs →
    .call .ignoreRemainderOfCurrentScroll ∉ during →
    run (before ++ .call (.setScrollViewIsScrolling true) :: during) = some last →
    ∀ fromOffset, actionForScrollFromOffset fromOffset last = .ignore →
      ignoredByPosition fromOffset last = true

def ResetsUnignored (inputs : List (Input F)) : Prop :=
  ∀ before input state after, before ++ [input] <+: inputs → run before = some state →
    run (before ++ [input]) = some after → resets state input = true →
    state.ignoringCurrentScroll = false

/-! ## One step -/

def Ignoring (state : State F) : Prop :=
  state.ignoringCurrentScroll = true → state.scrolling = true

variable {before : List (Input F)} {after : State F} {input : Input F}

/-- A step keeps that unless it resets the model while a scroll is being ignored. -/
theorem ignoring_flags (ignoring : Ignoring state)
    (unignored : resets state input = true → state.ignoringCurrentScroll = false)
    (flags : Flags state (flagsAfter state input) after) : Ignoring after := by
  intro ignored
  rw [flags.ignoring] at ignored
  rw [flags.scrolling]
  unfold flagsAfter at ignored ⊢
  split at ignored
  case h_1 =>
    rcases Bool.or_eq_true _ _ |>.mp ignored with scrolling | ignored
    · exact scrolling
    · exact ignoring ignored
  case h_2 scrolling =>
    obtain ⟨begun, ignored⟩ := Bool.and_eq_true _ _ |>.mp ignored
    simpa [ignoring ignored] using begun
  case h_3 =>
    have unset : resets state input = false := by
      grind
    rw [ignoring ignored, unset]
    rfl

/-- Such a step leaves a scroll to be ignored behind. -/
theorem not_ignoring_flags (resetting : resets state input = true)
    (ignored : state.ignoringCurrentScroll = true)
    (flags : Flags state (flagsAfter state input) after) : ¬ Ignoring after := by
  have plain : flagsAfter state input = (false, true) := by
    unfold flagsAfter
    split
    case h_1 => cases resetting
    case h_2 => cases resetting
    case h_3 => simp [resetting, ignored]
  simp [Ignoring, plain, flags.ignoring, flags.scrolling]

/-- Only the call to ignore the rest of a scroll begins to ignore it. -/
theorem unignored_flags (hearing : state.ignoringCurrentScroll = false)
    (other : input ≠ .call .ignoreRemainderOfCurrentScroll)
    (flags : Flags state (flagsAfter state input) after) : after.ignoringCurrentScroll = false := by
  rw [flags.ignoring]
  unfold flagsAfter
  grind

theorem ignoredByPosition_of_ignore {fromOffset : F}
    (hearing : state.ignoringCurrentScroll = false)
    (ignored : actionForScrollFromOffset fromOffset state = .ignore) :
    ignoredByPosition fromOffset state = true := by
  unfold actionForScrollFromOffset at ignored
  grind

/-! ## Runs -/

/-- A scroll that is not ignored is not ignored until that call. -/
theorem run_unignored {during : List (Input F)} {last : State F}
    (reached : run before = some state) (hearing : state.ignoringCurrentScroll = false)
    (uncalled : .call .ignoreRemainderOfCurrentScroll ∉ during)
    (ended : run (before ++ during) = some last) : last.ignoringCurrentScroll = false := by
  induction during using List.reverseRecOn generalizing last with
  | nil =>
    grind
  | append_singleton _ _ ih =>
    rw [← List.append_assoc] at ended
    obtain ⟨_, _, ended, stepped⟩ := run_concat_eq_some.mp ended
    rw [List.mem_append, List.mem_singleton, not_or] at uncalled
    exact unignored_flags (ih uncalled.1 ended) (fun same => uncalled.2 same.symm)
      (step_flags stepped)

theorem run_ignoring (unignored : ResetsUnignored inputs) (within : before <+: inputs)
    (reached : run before = some state) : Ignoring state := by
  induction before using List.reverseRecOn generalizing state with
  | nil =>
    cases reached
    exact fun ignored => nomatch ignored
  | append_singleton before input ih =>
    obtain ⟨middle, _, earlier, stepped⟩ := run_concat_eq_some.mp reached
    have ignoring := ih ((List.prefix_append before [input]).trans within) earlier
    exact ignoring_flags ignoring (unignored before input middle state within earlier reached)
      (step_flags stepped)

/-- The flag that a scroll is ignored never outlives the scroll exactly when the model is not
reset while a scroll is being ignored. -/
theorem hearsNewScrolls_iff (inputs : List (Input F)) :
    IgnoresOnlyScrolls inputs ∧ HearsNewScrolls inputs ↔ ResetsUnignored inputs := by
  constructor
  · rintro ⟨only, -⟩ before input state after within reached ended resetting
    by_contra ignored
    obtain ⟨_, _, earlier, stepped⟩ := run_concat_eq_some.mp ended
    cases reached.symm.trans earlier
    exact not_ignoring_flags resetting (Bool.not_eq_false _ |>.mp ignored) (step_flags stepped)
      (only _ _ within ended)
  · intro unignored
    refine ⟨fun before state within reached => run_ignoring unignored within reached, ?_⟩
    intro before state during last reached still within uncalled ended fromOffset ignored
    have earlier : before <+: inputs := (List.prefix_append before _).trans within
    have hearing : state.ignoringCurrentScroll = false := by
      by_contra ignored
      have scrolling := run_ignoring unignored earlier reached (Bool.not_eq_false _ |>.mp ignored)
      rw [still] at scrolling
      cases scrolling
    refine ignoredByPosition_of_ignore (run_unignored reached hearing ?_ ended) ignored
    rw [List.mem_cons, not_or]
    exact ⟨nofun, uncalled⟩

/-! ## A navigation during an ignored scroll -/

/-- The whole numbers among the floating-point numbers, and the one that is none. -/
def Whole := Option Int

def Whole.zip (operation : Int → Int → Int) : Whole → Whole → Whole
  | some first, some second => some (operation first second)
  | _, _ => none

def Whole.compare (relation : Int → Int → Bool) : Whole → Whole → Bool
  | some first, some second => relation first second
  | _, _ => false

instance : CGFloat Whole where
  zero := some 0
  one := some 1
  add := Whole.zip (· + ·)
  sub := Whole.zip (· - ·)
  mul := Whole.zip (· * ·)
  div := Whole.zip (· / ·)
  neg := Option.map (- ·)
  nan := none
  isNaN := Option.isNone
  equal := Whole.compare (· == ·)
  lt := Whole.compare fun first second => first < second
  le := Whole.compare fun first second => first ≤ second
  abs := Option.map fun number => number.natAbs
  epsilon := some 0

def ignoredScroll : List (Input Whole) :=
  [.call (.setExpandedToolbarHeight (some 50)), .returned, .returned,
    .call (.setScrollViewHeight (some 100)), .call (.setContentHeight (some 1000)),
    .call (.setScrollViewIsScrolling true), .call .ignoreRemainderOfCurrentScroll]

/-- The page is left, -/
def navigated : List (Input Whole) :=
  ignoredScroll ++ [.call .resetForNavigation, .returned]

def navigatedScroll : List (Input Whole) :=
  navigated ++ [.call (.setScrollViewIsScrolling true), .call (.setYContentOffset (some 10))]

theorem not_hearsNewScrolls_navigatedScroll :
    ¬ IgnoresOnlyScrolls navigatedScroll ∧ ¬ HearsNewScrolls navigatedScroll := by
  have left : (run navigated).map
      (fun state => (state.ignoringCurrentScroll, state.scrolling)) = some (true, false) := rfl
  obtain ⟨state, reached, flags⟩ := Option.map_eq_some_iff.mp left
  obtain ⟨ignored, still⟩ := Prod.mk.inj flags
  constructor
  · grind [IgnoresOnlyScrolls, navigatedScroll]
  · intro hears
    have scrolled : (run navigatedScroll).map (fun last =>
        (actionForScrollFromOffset (0 : Whole) last, ignoredByPosition (0 : Whole) last)) =
          some (.ignore, false) := rfl
    obtain ⟨last, ended, ignored⟩ := Option.map_eq_some_iff.mp scrolled
    obtain ⟨ignored, elsewhere⟩ := Prod.mk.inj ignored
    have positioned := hears navigated state [.call (.setYContentOffset (some 10))] last reached
      still (List.prefix_refl _) (by simp) ended 0 ignored
    cases elsewhere.symm.trans positioned

end ChromiumIos.FullscreenModel
