import ChromiumIos.WebStateList.Activation

/-!
# The forwarder that observes the active WebState

An `ActiveWebStateObservationForwarder` adds an observer to every WebState that
is reported as newly active and removes it from the one reported as no longer
active.  Adding the observer twice, and removing it where it was never added,
fail an assertion.  Attached to a list, the forwarder observes exactly the
active WebState for as long as only the active WebState is replaced, and it
fails as soon as another one is.
-/

namespace ChromiumIos

open Lib WebStateList

variable {W : Type} [DecidableEq W]

structure ScopedObserver (W : Type) where
  sources : List W
  deriving DecidableEq, Repr

namespace ScopedObserver

variable (observer : ScopedObserver W)

def add (source : W) : Checked (ScopedObserver W) := do
  dcheck (source ∉ observer.sources)
  return ⟨observer.sources ++ [source]⟩

def remove (source : W) : Checked (ScopedObserver W) := do
  dcheck (source ∈ observer.sources)
  return ⟨observer.sources.erase source⟩

/-- Nothing is done for a null WebState. -/
def addIfAny : Option W → Checked (ScopedObserver W)
  | some source => observer.add source
  | none => some observer

def removeIfAny : Option W → Checked (ScopedObserver W)
  | some source => observer.remove source
  | none => some observer

end ScopedObserver

structure ActiveWebStateObservationForwarder (W : Type) where
  webStateObserver : ScopedObserver W
  deriving DecidableEq, Repr

namespace ActiveWebStateObservationForwarder

def create (list : WebStateList W) : Checked (ActiveWebStateObservationForwarder W) := do
  let active ← list.getActiveWebState
  let webStateObserver ← (ScopedObserver.mk []).addIfAny active
  return ⟨webStateObserver⟩

def webStateActivatedAt (forwarder : ActiveWebStateObservationForwarder W)
    (oldWebState newWebState : Option W) : Checked (ActiveWebStateObservationForwarder W) := do
  let removed ← forwarder.webStateObserver.removeIfAny oldWebState
  let added ← removed.addIfAny newWebState
  return ⟨added⟩

/-- The forwarder overrides one method of the list observer. -/
def observe (forwarder : ActiveWebStateObservationForwarder W) :
    Notification W → Checked (ActiveWebStateObservationForwarder W)
  | .activatedAt oldWebState newWebState _ _ =>
    forwarder.webStateActivatedAt oldWebState newWebState
  | _ => some forwarder

def watching (webState : Option W) : ActiveWebStateObservationForwarder W := ⟨⟨webState.toList⟩⟩

theorem create_eq {list : WebStateList W} (inRange : list.ActiveInRange) :
    create list = some (watching list.activeWebState) := by
  simp only [create]
  rw [getActiveWebState_eq inRange]
  cases list.activeWebState with
  | none => rfl
  | some _ =>
    rfl

/-- Told of a change from the WebState it observes, the forwarder observes the new one. -/
theorem webStateActivatedAt_watching {old new : Option W} (changed : new ≠ old) :
    (watching old).webStateActivatedAt old new = some (watching new) := by
  cases old with
  | none =>
    cases new with
    | none => exact absurd rfl changed
    | some _ =>
      rfl
  | some _ =>
    cases new <;>
      simp [webStateActivatedAt, watching, ScopedObserver.removeIfAny, ScopedObserver.remove,
        ScopedObserver.addIfAny, ScopedObserver.add]

/-- Told of a change from a WebState it does not observe, the forwarder fails. -/
theorem webStateActivatedAt_not_watching {old : W} {active new : Option W}
    (other : active ≠ some old) :
    (watching active).webStateActivatedAt (some old) new = none := by
  have absent : old ∉ active.toList := by
    simp [other]
  simp [webStateActivatedAt, watching, ScopedObserver.removeIfAny, ScopedObserver.remove, absent]

/-- Linked activations are forwarded. -/
theorem foldlM_observe_of_linked {first last : Option W} {notifications : List (Notification W)}
    (linked : Linked first (activations notifications) last) :
    notifications.foldlM observe (watching first) = some (watching last) := by
  induction notifications generalizing first with
  | nil =>
    cases linked
    rfl
  | cons notification _ ih =>
    rw [List.foldlM_cons]
    cases notification with
    | activatedAt _ _ _ _ =>
      obtain ⟨rfl, changed, continues⟩ := linked
      rw [observe, webStateActivatedAt_watching changed]
      exact ih continues
    | insertedAt | moved | replacedAt | willDetachAt | detachedAt | willCloseAt =>
      exact ih linked

end ActiveWebStateObservationForwarder

/-! ## A list with a forwarder attached -/

namespace WebStateList

open ActiveWebStateObservationForwarder

variable {list after : WebStateList W} {notifications : List (Notification W)}
variable {input : Input W}

/-- Replacing an inactive WebState makes a forwarder that observes the active one fail. -/
theorem foldlM_observe_of_replacesInactive (wf : list.WellFormed)
    (admissible : list.Admissible input) (replaces : list.ReplacesInactive input)
    (stepped : list.step input = some (after, notifications)) :
    notifications.foldlM observe (watching list.activeWebState) = none := by
  obtain ⟨_, operation⟩ := input
  cases operation with
  | replaceWebStateAt index _ =>
    obtain ⟨wrapper, taken⟩ := (containsIndex_iff list index).mp admissible.1
    cases Option.some.inj ((replaceWebStateAt_eq wf taken admissible.2).symm.trans stepped)
    have other : list.activeWebState ≠ some wrapper.webState := by
      intro same
      have takenState := at?_webStates_of_taken taken
      exact replaces (at?_inj wf.nodup takenState same)
    simp [observe, webStateActivatedAt_not_watching other]
  | insertWebState | moveWebStateAt | detachWebStateAt | closeWebStateAt
  | closeAllWebStates | activateWebStateAt | setOpenerOfWebStateAt => cases replaces

/-- Every other step is forwarded. -/
theorem foldlM_observe_of_not_replacesInactive (wf : list.WellFormed)
    (admissible : list.Admissible input) (other : ¬ list.ReplacesInactive input)
    (stepped : list.step input = some (after, notifications)) :
    notifications.foldlM observe (watching list.activeWebState) =
      some (watching after.activeWebState) :=
  foldlM_observe_of_linked ((step_faithful_iff wf admissible stepped).mpr other).linked

def ForwardedRun (notifications : List (Notification W))
    (state : WebStateList W × ActiveWebStateObservationForwarder W) : Prop :=
  ∃ forwarder, create (empty : WebStateList W) = some forwarder ∧
    Runs (attach step observe) (fun state input => state.1.Admissible input)
      (empty, forwarder) notifications state

/-- The list stays well formed and the forwarder observes its active WebState. -/
theorem ForwardedRun.invariant {state : WebStateList W × ActiveWebStateObservationForwarder W}
    (run : ForwardedRun notifications state) :
    state.1.WellFormed ∧ state.2 = watching state.1.activeWebState := by
  obtain ⟨forwarder, created, run⟩ := run
  have initial := Option.some.inj (created.symm.trans (create_eq (.inl rfl)))
  refine Runs.invariant (fun state =>
    state.1.WellFormed ∧ state.2 = watching state.1.activeWebState) run
      ⟨empty_wellFormed, initial⟩ ?_
  intro state after input emitted holds admissible attached
  obtain ⟨wf, watches⟩ := holds
  obtain ⟨stepped, observed⟩ := attach_eq_some_iff.mp attached
  grind [step_wellFormed, foldlM_observe_of_replacesInactive,
    foldlM_observe_of_not_replacesInactive]

/--
After every operation the forwarder observes exactly the active WebState.  The
next operation is forwarded without failing an assertion exactly if it does not
replace an inactive WebState.
-/
theorem forwarder_observes_active {forwarder : ActiveWebStateObservationForwarder W}
    (run : ForwardedRun notifications (list, forwarder)) :
    forwarder.webStateObserver.sources = list.activeWebState.toList ∧
    ∀ input after emitted, list.Admissible input → list.step input = some (after, emitted) →
      ((∃ forwarded, emitted.foldlM observe forwarder = some forwarded ∧
          forwarded.webStateObserver.sources = after.activeWebState.toList) ↔
        ¬ list.ReplacesInactive input) := by
  obtain ⟨wf, watches⟩ := run.invariant
  dsimp only at wf watches
  subst watches
  grind [watching, foldlM_observe_of_replacesInactive, foldlM_observe_of_not_replacesInactive]

/-- Replacing the active one of two tabs is forwarded. -/
theorem forwarder_observes_active_twoTabs :
    ∃ forwarded, [Notification.replacedAt 1 3 0,
        .activatedAt (some 1) (some 3) 0 .replaced].foldlM observe
          (watching (some 1)) = some forwarded ∧
      forwarded.webStateObserver.sources = [3] := by
  have run : ForwardedRun
      [.insertedAt 1 0 true, .activatedAt none (some 1) 0 .userAction, .insertedAt 2 1 false]
      ((⟨[⟨1, .null⟩, ⟨2, .null⟩], 0⟩ : WebStateList Nat),
        watching (some 1)) :=
    ⟨watching none, by decide, Runs.replay twoTabs .start (by decide)⟩
  exact ((forwarder_observes_active run).2 ⟨fun _ => 0, .replaceWebStateAt 0 3⟩
    ⟨[⟨3, .null⟩, ⟨2, .null⟩], 0⟩ _ (by decide) (by decide)).mpr (fun inactive => inactive rfl)

/-- Replacing the other tab makes the forwarder remove itself from a WebState
that it does not observe. -/
theorem forwarder_fails_on_replacing_inactive :
    ∃ notifications, ∃ list after : WebStateList Nat, ∃ forwarder emitted,
      ForwardedRun notifications (list, forwarder) ∧
      list.Admissible ⟨fun _ => 0, .replaceWebStateAt 1 3⟩ ∧
      list.step ⟨fun _ => 0, .replaceWebStateAt 1 3⟩ = some (after, emitted) ∧
      forwarder.webStateObserver.sources = [1] ∧
      activations emitted = [⟨some 2, some 1, 0⟩] ∧
      emitted.foldlM observe forwarder = none := by
  refine ⟨_, ⟨[⟨1, .null⟩, ⟨2, .null⟩], 0⟩, ⟨[⟨1, .null⟩, ⟨3, .null⟩], 0⟩,
    watching (some 1),
    [.replacedAt 2 3 1, .activatedAt (some 2) (some 1) 0 .replaced],
    ⟨watching none, by decide,
      Runs.replay twoTabs .start (Option.eq_some_of_isSome (by decide))⟩,
    by decide, by decide, by decide, by decide, by decide⟩

end WebStateList

end ChromiumIos
