import ChromiumIos.WebStateList.Safety

/-!
# What an observer finds when it is notified

The notifications carry no list.  An observer that asks the list which WebState is
active while it is notified reads the list in the middle of an operation: an inserted
WebState is reported before it is activated, and a WebState that will be detached is
still in the list.
-/

namespace ChromiumIos.WebStateList

open Lib

variable {W : Type} [DecidableEq W]

/-- A notification and the list as it is while observers are notified. -/
abbrev Seen (W : Type) := Notification W × WebStateList W

omit [DecidableEq W] in
def listDuring (before after : WebStateList W) : Notification W → WebStateList W
  | .insertedAt webState index _ => before.withInserted index webState
  | .willDetachAt _ _ => before
  | .moved _ _ _ | .replacedAt _ _ _ | .detachedAt _ _ | .willCloseAt _ _ _
  | .activatedAt _ _ _ _ => after

omit [DecidableEq W] in
def seen (before after : WebStateList W) (notifications : List (Notification W)) :
    List (Seen W) :=
  notifications.map fun notification => (notification, before.listDuring after notification)

omit [DecidableEq W] in
def withListsSeen (before : WebStateList W) (outcome : Outcome W) :
    WebStateList W × List (Seen W) :=
  (outcome.1, before.seen outcome.1 outcome.2)

def closeAllLoopSeen (lastCommitted : W → Int) (closeFlags : Flags) :
    Nat → WebStateList W → Checked (WebStateList W × List (Seen W))
  | 0, list => some (list, [])
  | bound + 1, list =>
    if list.webStateWrappers.isEmpty then some (list, [])
    else do
      let (closed, first) ←
        (list.closeWebStateAt lastCommitted (list.count - 1) closeFlags).map list.withListsSeen
      let (last, more) ← closeAllLoopSeen lastCommitted closeFlags bound closed
      return (last, first ++ more)

def stepSeen (list : WebStateList W) (input : Input W) :
    Checked (WebStateList W × List (Seen W)) :=
  match input.operation with
  | .closeAllWebStates closeFlags =>
    closeAllLoopSeen input.lastCommitted closeFlags list.webStateWrappers.length list
  | .insertWebState .. | .moveWebStateAt .. | .replaceWebStateAt .. | .detachWebStateAt _
  | .closeWebStateAt .. | .activateWebStateAt _ | .setOpenerOfWebStateAt .. =>
    (list.step input).map list.withListsSeen

/-! ## The notifications are those of the operation -/

omit [DecidableEq W] in
def unseen (outcome : WebStateList W × List (Seen W)) : Outcome W :=
  (outcome.1, outcome.2.map Prod.fst)

omit [DecidableEq W] in
theorem unseen_withListsSeen (before : WebStateList W) (outcome : Outcome W) :
    unseen (before.withListsSeen outcome) = outcome := by
  unfold unseen withListsSeen seen
  rw [List.map_map]
  exact congrArg (Prod.mk outcome.1) (List.map_id' outcome.2)

omit [DecidableEq W] in
theorem map_unseen_withListsSeen (before : WebStateList W) (outcome : Checked (Outcome W)) :
    (outcome.map before.withListsSeen).map unseen = outcome := by
  rw [Option.map_map]
  have same : unseen ∘ before.withListsSeen = id := funext before.unseen_withListsSeen
  rw [same, Option.map_id_fun, id_eq]

theorem map_unseen_closeAllLoopSeen (lastCommitted : W → Int) (closeFlags : Flags) (bound : Nat)
    (list : WebStateList W) :
    (closeAllLoopSeen lastCommitted closeFlags bound list).map unseen =
      closeAllLoop lastCommitted closeFlags bound list := by
  induction bound generalizing list with
  | zero => rfl
  | succ _ ih =>
    unfold closeAllLoopSeen closeAllLoop
    split
    · rfl
    · cases list.closeWebStateAt lastCommitted (list.count - 1) closeFlags with
      | none => rfl
      | some outcome =>
        have rest := ih outcome.1
        have first := list.unseen_withListsSeen outcome
        simp only [Option.map_some, Option.bind_eq_bind, Option.bind_some]
        rw [← rest]
        grind [unseen]

/-- What observers find does not change what an operation does. -/
theorem map_unseen_stepSeen (list : WebStateList W) (input : Input W) :
    (list.stepSeen input).map unseen = list.step input := by
  obtain ⟨lastCommitted, operation⟩ := input
  cases operation with
  | closeAllWebStates closeFlags =>
    exact map_unseen_closeAllLoopSeen lastCommitted closeFlags _ list
  | insertWebState | moveWebStateAt | replaceWebStateAt | detachWebStateAt | closeWebStateAt
  | activateWebStateAt | setOpenerOfWebStateAt => exact list.map_unseen_withListsSeen _

variable {list after : WebStateList W} {emitted : List (Seen W)}

theorem step_of_stepSeen {input : Input W} (stepped : list.stepSeen input = some (after, emitted)) :
    list.step input = some (after, emitted.map Prod.fst) := by
  rw [← map_unseen_stepSeen, stepped]
  rfl

theorem stepSeen_isSome {input : Input W} (wf : list.WellFormed) (proper : list.NoOwnOpener)
    (admissible : list.Admissible input) :
    ∃ after emitted, list.stepSeen input = some (after, emitted) := by
  obtain ⟨after, notifications, stepped⟩ := step_isSome wf proper admissible
  rw [← map_unseen_stepSeen] at stepped
  obtain ⟨⟨left, emitted⟩, stepped, -⟩ := Option.map_eq_some_iff.mp stepped
  grind

/-! ## Effects -/

/-- One change of the list with what observers find during its notifications. -/
def SeenEffect (OwnOpener : Prop) (list : WebStateList W) (emitted : List (Seen W))
    (after : WebStateList W) : Prop :=
  ∃ notifications, Effect OwnOpener list notifications after ∧
    emitted = list.seen after notifications

variable {OwnOpener : Prop}
variable {closeFlags : Flags} {lastCommitted : W → Int} {notifications : List (Notification W)}

theorem Effect.seen (effect : Effect OwnOpener list notifications after) :
    SeenEffect OwnOpener list (list.seen after notifications) after :=
  ⟨notifications, effect, rfl⟩

theorem SeenEffect.wellFormed (wf : list.WellFormed)
    (effect : SeenEffect OwnOpener list emitted after) : after.WellFormed := by
  obtain ⟨_, effect, -⟩ := effect
  exact effect.wellFormed wf

theorem closeWebStateAt_seenChain {index : Int} (wf : list.WellFormed)
    (inside : list.ContainsIndex index) (returned :
      list.closeWebStateAt lastCommitted index closeFlags = some (after, notifications)) :
    Chain (SeenEffect OwnOpener) list (list.seen after notifications) after := by
  obtain ⟨_, _, removed, rfl⟩ := closeWebStateAt_eq_some_iff.mp returned
  obtain ⟨effect, gone, _⟩ := detachWebStateAt_effect OwnOpener wf inside removed
  have closing : Effect OwnOpener after _ after :=
    .close index (isFlagSet closeFlags closeUserAction) gone
  have chain := Chain.head effect.seen (.single closing.seen)
  unfold WebStateList.seen at chain ⊢
  rwa [List.map_append]

theorem closeAllLoop_seenChain {bound : Nat} (wf : list.WellFormed)
    (returned : closeAllLoopSeen lastCommitted closeFlags bound list = some (after, emitted)) :
    Chain (SeenEffect OwnOpener) list emitted after := by
  induction bound generalizing list emitted with
  | zero =>
    cases returned
    exact .refl _
  | succ _ ih =>
    unfold closeAllLoopSeen at returned
    cases nonempty : list.webStateWrappers.isEmpty with
    | true =>
      rw [nonempty] at returned
      cases returned
      exact .refl _
    | false =>
      rw [nonempty] at returned
      obtain ⟨_, closedFirst, returned⟩ := Option.bind_eq_some_iff.mp returned
      obtain ⟨⟨closed, _⟩, closedOne, rfl⟩ := Option.map_eq_some_iff.mp closedFirst
      obtain ⟨⟨_, _⟩, closedRest, returned⟩ := Option.bind_eq_some_iff.mp returned
      cases returned
      have one : Chain (SeenEffect OwnOpener) list _ closed :=
        closeWebStateAt_seenChain wf (containsIndex_last nonempty) closedOne
      exact one.trans (ih (one.invariant wf SeenEffect.wellFormed) closedRest)

/-- Every admissible step that returns is a sequence of effects, and observers find the list as
it is during each of them. -/
theorem stepSeen_chain {input : Input W} (wf : list.WellFormed)
    (admissible : list.Admissible input)
    (stepped : list.stepSeen input = some (after, emitted)) :
    Chain (SeenEffect (list.MakesOwnOpener input)) list emitted after := by
  obtain ⟨lastCommitted, operation⟩ := input
  cases operation with
  | closeAllWebStates _ => exact closeAllLoop_seenChain wf stepped
  | insertWebState _ webState insertionFlags _ =>
    obtain ⟨⟨left, notifications⟩, inserted, result⟩ := Option.map_eq_some_iff.mp stepped
    obtain ⟨fresh, room, forced, known⟩ := admissible
    obtain ⟨chosen, recorded, nonneg, inside, recordedKnown, spec⟩ :=
      insertWebState_spec lastCommitted wf fresh room forced known
    have outcome := Option.some.inj (spec.symm.trans inserted)
    cases activating : isFlagSet insertionFlags insertActivate with
    | false =>
      rw [activating] at outcome
      cases outcome
      cases result
      exact .single (Effect.insert false nonneg inside room fresh recordedKnown).seen
    | true =>
      rw [activating] at outcome
      cases outcome
      cases result
      have found := at?_webStates_withNew nonneg inside webState recorded
      have contained : (list.withNew chosen webState recorded).ContainsIndex chosen :=
        (containsIndex_iff_webStates _ chosen).mpr ⟨webState, found⟩
      have distinct : list.activeWebState ≠ some webState :=
        fun same => fresh (mem_of_at? same)
      have activated : Effect False _ _ _ := .activate contained
      rw [activeWebState_withNew nonneg inside, found, activation, if_neg distinct] at activated
      exact .head (Effect.insert true nonneg inside room fresh recordedKnown).seen
        (.single activated.seen)
  | moveWebStateAt source _ =>
    obtain ⟨⟨left, notifications⟩, moved, result⟩ := Option.map_eq_some_iff.mp stepped
    obtain ⟨wrapper, taken⟩ := (containsIndex_iff list source).mp admissible.1
    have outcome := Option.some.inj ((moveWebStateAt_eq taken admissible.2).symm.trans moved)
    split at outcome
    · cases outcome
      cases result
      exact .refl list
    · cases outcome
      cases result
      exact .single (Effect.move taken admissible.2).seen
  | replaceWebStateAt index _ =>
    obtain ⟨⟨left, notifications⟩, replaced, result⟩ := Option.map_eq_some_iff.mp stepped
    obtain ⟨wrapper, taken⟩ := (containsIndex_iff list index).mp admissible.1
    cases Option.some.inj ((replaceWebStateAt_eq wf taken admissible.2).symm.trans replaced)
    cases result
    exact .single (Effect.replace taken admissible.2).seen
  | detachWebStateAt _ =>
    obtain ⟨⟨left, notifications⟩, returned, result⟩ := Option.map_eq_some_iff.mp stepped
    obtain ⟨⟨_, closed, _⟩, removed, outcome⟩ :=
      Option.map_eq_some_iff.mp returned
    cases outcome
    cases result
    exact .single (detachWebStateAt_effect _ wf admissible removed).1.seen
  | closeWebStateAt _ _ =>
    obtain ⟨⟨left, notifications⟩, closed, result⟩ := Option.map_eq_some_iff.mp stepped
    cases result
    exact closeWebStateAt_seenChain wf admissible closed
  | activateWebStateAt _ =>
    obtain ⟨⟨left, notifications⟩, activated, result⟩ := Option.map_eq_some_iff.mp stepped
    cases Option.some.inj ((activateWebStateAt_eq wf.active admissible).symm.trans activated)
    cases result
    exact .single (Effect.activate admissible).seen
  | setOpenerOfWebStateAt _ _ =>
    obtain ⟨⟨_, _⟩, returned, result⟩ := Option.map_eq_some_iff.mp stepped
    obtain ⟨_, taken, known, recorded⟩ := step_setOpener_eq admissible
    cases Option.some.inj (recorded.symm.trans returned)
    cases result
    refine .single (Effect.setOpener taken known ?_).seen
    simp [MakesOwnOpener, getWebStateAt, taken]

end ChromiumIos.WebStateList
