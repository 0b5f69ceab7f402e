import ChromiumIos.WebStateList.Safety

/-!
# Reports of the active WebState

Observers learn that the active WebState changed from one kind of notification.
`Reported` says that the notifications of a step tell the change of the active
WebState as it happened: none if it stayed the same, and else exactly one, from
the WebState that was active to the one that is active now.  Every operation
reports faithfully but one: replacing a WebState sends the notification also
when the replaced WebState was not the active one.
-/

namespace ChromiumIos.WebStateList

open Lib

variable {W : Type}

/-- The arguments of a notification that the active WebState changed. -/
structure Activation (W : Type) where
  old : Option W
  new : Option W
  index : Int
  deriving DecidableEq, Repr

def activation? : Notification W → Option (Activation W)
  | .activatedAt old new index _ => some ⟨old, new, index⟩
  | _ => none

def activations (notifications : List (Notification W)) : List (Activation W) :=
  notifications.filterMap activation?

def Reported (before : WebStateList W) (notifications : List (Notification W))
    (after : WebStateList W) : Prop :=
  activations notifications = [] ∧ before.activeWebState = after.activeWebState ∨
  activations notifications =
      [⟨before.activeWebState, after.activeWebState, after.activeIndex⟩] ∧
    before.activeWebState ≠ after.activeWebState

/-- Each activation starts from the WebState that the one before it ended with. -/
def Linked : Option W → List (Activation W) → Option W → Prop
  | first, [], last => first = last
  | first, activation :: rest, last =>
    activation.old = first ∧ activation.new ≠ first ∧ Linked activation.new rest last

@[simp]
theorem activations_append (left right : List (Notification W)) :
    activations (left ++ right) = activations left ++ activations right :=
  List.filterMap_append

theorem Linked.append {first middle last : Option W} {left right : List (Activation W)}
    (linkedLeft : Linked first left middle) (linkedRight : Linked middle right last) :
    Linked first (left ++ right) last := by
  induction left generalizing first with
  | nil =>
    cases linkedLeft
    exact linkedRight
  | cons _ _ _ =>
    grind [Linked]

theorem Reported.linked {before after : WebStateList W} {notifications : List (Notification W)}
    (reported : Reported before notifications after) :
    Linked before.activeWebState (activations notifications) after.activeWebState := by
  rcases reported with ⟨silent, same⟩ | ⟨single, changed⟩
  · rw [silent]
    exact same
  · rw [single]
    exact ⟨rfl, changed.symm, rfl⟩

variable [DecidableEq W]
variable {list after : WebStateList W} {notifications : List (Notification W)}

def ReplacesInactive (list : WebStateList W) (input : Input W) : Prop :=
  match input.operation with
  | .replaceWebStateAt index _ => index ≠ list.activeIndex
  | _ => False

def TouchesInactive (list : WebStateList W) (input : Input W) : Prop :=
  match input.operation with
  | .replaceWebStateAt index _ | .moveWebStateAt index _
  | .detachWebStateAt index | .closeWebStateAt index _ => index ≠ list.activeIndex
  | _ => False

def ClosesLastReported (lastCommitted : W → Int) (closeFlags : Flags) (list : WebStateList W)
    (notifications : List (Notification W)) (after : WebStateList W) : Prop :=
  list.closeWebStateAt lastCommitted (list.count - 1) closeFlags = some (after, notifications) ∧
    Reported list notifications after

/--
What observers rely on: every operation reports what happens to the active
WebState (closing all WebStates closes them one by one, and reports each), and
nothing is reported when a WebState that is not active is touched.
-/
def Faithful (list : WebStateList W) (input : Input W) (notifications : List (Notification W))
    (after : WebStateList W) : Prop :=
  (match input.operation with
    | .closeAllWebStates closeFlags =>
      Chain (ClosesLastReported input.lastCommitted closeFlags) list notifications after
    | _ => Reported list notifications after) ∧
  (list.TouchesInactive input → activations notifications = [])

/-! ## Every operation but one -/

omit [DecidableEq W] in
theorem reported_of_silent (silent : activations notifications = [])
    (same : list.activeWebState = after.activeWebState) : Reported list notifications after :=
  .inl ⟨silent, same⟩

theorem activations_activation (old new : Option W) (index : Int) (reason : ChangeReason) :
    activations (activation old new index reason) =
      if old = new then [] else [⟨old, new, index⟩] := by
  simp only [activation]
  split <;> rfl

variable {index : Int} {lastCommitted : W → Int} {closeFlags : Flags} {input : Input W}
variable {webState : W}

theorem insertWebState_reported (lastCommitted : W → Int) {insertionFlags : Flags}
    {opener : WebStateOpener W} (wf : list.WellFormed) (admissible :
      list.Admissible ⟨lastCommitted, .insertWebState index webState insertionFlags opener⟩)
    (returned : list.insertWebState lastCommitted index webState insertionFlags opener =
      some (after, notifications)) : Reported list notifications after := by
  obtain ⟨fresh, room, forced, known⟩ := admissible
  obtain ⟨chosen, recorded, nonneg, inside, _, inserted⟩ :=
    insertWebState_spec lastCommitted wf fresh room forced known
  have result := Option.some.inj (inserted.symm.trans returned)
  cases activating : isFlagSet insertionFlags insertActivate with
  | false =>
    rw [activating] at result
    cases result
    exact reported_of_silent rfl (activeWebState_withNew nonneg inside webState recorded).symm
  | true =>
    rw [activating] at result
    cases result
    have found := at?_webStates_withNew nonneg inside webState recorded
    have active : activeWebState
        { list.withNew chosen webState recorded with activeIndex := chosen } =
          some webState := found
    refine .inr ⟨?_, ?_⟩
    · rw [active]
      rfl
    · rw [active]
      exact fun same => fresh (mem_of_at? same)

omit [DecidableEq W] in
theorem moveWebStateAt_silent {source target : Int} {wrapper : WebStateWrapper W}
    (taken : at? list.webStateWrappers source = some wrapper)
    (inside : list.ContainsIndex target)
    (returned : list.moveWebStateAt source target = some (after, notifications)) :
    activations notifications = [] ∧ list.activeWebState = after.activeWebState := by
  have result := Option.some.inj ((moveWebStateAt_eq taken inside).symm.trans returned)
  have takenState := at?_webStates_of_taken taken
  split at result
  · cases result
    exact ⟨rfl, rfl⟩
  · cases result
    refine ⟨rfl, ?_⟩
    simp only [activeWebState]
    rw [webStates_withMoved]
    exact (at?_move_moveShift takenState inside.1
      (by rw [length_webStates]; exact inside.2) _).symm

/-- A detachment reports the change of the active WebState, and no change if it
was another WebState that went. -/
theorem detachWebStateAt_reported {detached : W} (wf : list.WellFormed)
    (inside : list.ContainsIndex index)
    (returned : list.detachWebStateAt lastCommitted index = some (detached, after, notifications)) :
    Reported list notifications after ∧
      (index ≠ list.activeIndex → activations notifications = []) := by
  obtain ⟨wrapper, taken, rfl, removed⟩ := detachWebStateAt_cases wf inside returned
  have takenState := at?_webStates_of_taken taken
  rcases removed with ⟨rfl, inRange, newActiveIndex, rfl, rfl⟩ | ⟨inactive, rfl, rfl⟩
  · have before : list.activeWebState = some wrapper.webState := takenState
    refine ⟨.inr ⟨?_, ?_⟩, fun other => absurd rfl other⟩
    · rw [before]
      rfl
    · intro same
      rw [before] at same
      have remaining := mem_of_at? same.symm
      rw [webStates_eraseAt] at remaining
      exact not_mem_eraseAt wf.nodup takenState remaining
  · refine ⟨reported_of_silent rfl ?_, fun _ => rfl⟩
    have same := @at?_eraseAt_eraseShift _ list.webStates _ inside.1 _ inactive
    grind [activeWebState, webStates_eraseAt]

theorem closeWebStateAt_reported (wf : list.WellFormed) (inside : list.ContainsIndex index)
    (returned : list.closeWebStateAt lastCommitted index closeFlags = some (after, notifications)) :
    Reported list notifications after ∧
      (index ≠ list.activeIndex → activations notifications = []) := by
  obtain ⟨detached, earlier, removed, rfl⟩ := closeWebStateAt_eq_some_iff.mp returned
  have same : activations
      (earlier ++ [.willCloseAt detached index (isFlagSet closeFlags closeUserAction)]) =
        activations earlier := by
    simp [activations, activation?]
  simp only [Reported]
  rw [same]
  exact detachWebStateAt_reported wf inside removed

theorem closeAllLoop_reported {bound : Nat} (wf : list.WellFormed)
    (returned : closeAllLoop lastCommitted closeFlags bound list = some (after, notifications)) :
    Chain (ClosesLastReported lastCommitted closeFlags) list notifications after := by
  induction bound generalizing list notifications with
  | zero =>
    cases returned
    exact .refl _
  | succ _ ih =>
    rcases closeAllLoop_succ returned with ⟨-, rfl, rfl⟩ |
      ⟨closed, first, more, nonempty, closedOne, closedRest, rfl⟩
    · exact .refl _
    · have inside := containsIndex_last nonempty
      have closedWf := (closeWebStateAt_chain True wf inside closedOne).invariant
        wf Effect.wellFormed
      exact .head ⟨closedOne, (closeWebStateAt_reported wf inside closedOne).1⟩
        (ih closedWf closedRest)

/-! ## Replacing a WebState -/

/-- A replacement is reported as it happened exactly if the active WebState was replaced. -/
theorem replaceWebStateAt_reported_iff (wf : list.WellFormed) (inside : list.ContainsIndex index)
    (fresh : webState ∉ list.webStates)
    (returned : list.replaceWebStateAt index webState = some (after, notifications)) :
    Reported list notifications after ↔ index = list.activeIndex := by
  obtain ⟨wrapper, taken⟩ := (containsIndex_iff list index).mp inside
  have takenState := at?_webStates_of_taken taken
  cases Option.some.inj ((replaceWebStateAt_eq wf taken fresh).symm.trans returned)
  constructor
  · rintro (⟨silent, _⟩ | ⟨single, _⟩)
    · cases silent
    · have old : some wrapper.webState = list.activeWebState :=
        congrArg Activation.old (List.cons.inj single).1
      exact at?_inj wf.nodup takenState old.symm
  · rintro rfl
    have before : list.activeWebState = some wrapper.webState := takenState
    refine .inr ⟨?_, ?_⟩
    · rw [before]
      rfl
    · intro same
      have remaining := mem_of_at? (same.symm.trans before)
      grind [webStates_withReplaced, not_mem_setAt, webState_mem, wf.nodup]

/-! ## One step -/

theorem faithful_of_reported (other : ∀ closeFlags, input.operation ≠ .closeAllWebStates closeFlags)
    (reported : Reported list notifications after)
    (quiet : list.TouchesInactive input → activations notifications = []) :
    list.Faithful input notifications after := by
  refine ⟨?_, quiet⟩
  simp [reported]

/-- A step reports faithfully exactly if it does not replace an inactive WebState. -/
theorem step_faithful_iff (wf : list.WellFormed) (admissible : list.Admissible input)
    (stepped : list.step input = some (after, notifications)) :
    list.Faithful input notifications after ↔ ¬ list.ReplacesInactive input := by
  obtain ⟨lastCommitted, operation⟩ := input
  cases operation with
  | insertWebState _ _ _ _ =>
    refine iff_of_true ?_ not_false
    exact faithful_of_reported (fun _ => by simp)
      (insertWebState_reported lastCommitted wf admissible stepped) False.elim
  | moveWebStateAt source _ =>
    obtain ⟨wrapper, taken⟩ := (containsIndex_iff list source).mp admissible.1
    obtain ⟨silent, same⟩ := moveWebStateAt_silent taken admissible.2 stepped
    refine iff_of_true ?_ not_false
    grind [faithful_of_reported, reported_of_silent]
  | replaceWebStateAt _ _ =>
    have whenActive := replaceWebStateAt_reported_iff wf admissible.1 admissible.2 stepped
    constructor
    · intro faithful inactive
      exact inactive (whenActive.mp faithful.1)
    · intro active
      have same := not_not.mp active
      exact faithful_of_reported (fun _ => by simp) (whenActive.mpr same)
        fun inactive => absurd same inactive
  | detachWebStateAt _ =>
    obtain ⟨⟨detached, left, earlier⟩, removed, result⟩ := Option.map_eq_some_iff.mp stepped
    cases result
    obtain ⟨reported, quiet⟩ := detachWebStateAt_reported wf admissible removed
    exact iff_of_true (faithful_of_reported (fun _ => by simp) reported quiet) not_false
  | closeWebStateAt _ _ =>
    obtain ⟨reported, quiet⟩ := closeWebStateAt_reported wf admissible stepped
    exact iff_of_true (faithful_of_reported (fun _ => by simp) reported quiet) not_false
  | closeAllWebStates _ =>
    exact iff_of_true ⟨closeAllLoop_reported wf stepped, False.elim⟩ not_false
  | activateWebStateAt _ =>
    cases Option.some.inj ((activateWebStateAt_eq wf.active admissible).symm.trans stepped)
    refine iff_of_true (faithful_of_reported (fun _ => by simp) ?_ False.elim) not_false
    grind [Reported, activeWebState, webStates, activations_activation]
  | setOpenerOfWebStateAt _ _ =>
    obtain ⟨_, taken, _, recorded⟩ := step_setOpener_eq admissible
    cases Option.some.inj (recorded.symm.trans stepped)
    refine iff_of_true (faithful_of_reported (fun _ => by simp)
      (reported_of_silent rfl ?_) False.elim) not_false
    simp only [activeWebState]
    rw [webStates_withOpener taken]
    rfl

theorem linked_of_closesLastReported
    (chain : Chain (ClosesLastReported lastCommitted closeFlags) list notifications after) :
    Linked list.activeWebState (activations notifications) after.activeWebState := by
  induction chain with
  | refl => exact rfl
  | head closed _ ih =>
    simpa using closed.2.linked.append ih

theorem Faithful.linked (faithful : list.Faithful input notifications after) :
    Linked list.activeWebState (activations notifications) after.activeWebState := by
  obtain ⟨faithful, _⟩ := faithful
  grind [linked_of_closesLastReported, Reported.linked]

/-! ## Runs -/

abbrev ActiveReplacingRun (notifications : List (Notification W)) (list : WebStateList W) : Prop :=
  Runs step (fun list input => list.Admissible input ∧ ¬ list.ReplacesInactive input)
    empty notifications list

theorem ActiveReplacingRun.linked (run : ActiveReplacingRun notifications list) :
    Linked none (activations notifications) list.activeWebState := by
  refine Runs.invariant_outputs
    (fun notifications list => Linked none (activations notifications) (activeWebState list))
    run rfl ?_
  intro earlier list after input emitted before linked accepted stepped
  rw [activations_append]
  have wf := Run.wellFormed (before.mono And.left)
  exact linked.append ((step_faithful_iff wf accepted.1 stepped).mpr accepted.2).linked

/--
Every operation of every run reports faithfully exactly if it does not replace
an inactive WebState.  When no operation does so, the activations of the run
are linked from no WebState to the one that is active.
-/
theorem run_activations (run : Run notifications list) :
    (∀ input after emitted, list.Admissible input →
      list.step input = some (after, emitted) →
      (list.Faithful input emitted after ↔ ¬ list.ReplacesInactive input)) ∧
    (ActiveReplacingRun notifications list →
      Linked none (activations notifications) list.activeWebState) := by
  grind [ActiveReplacingRun.linked, step_faithful_iff, Run.wellFormed]

def twoTabs : List (Input Nat) :=
  [⟨fun _ => 0, .insertWebState 0 1 insertActivate .null⟩,
    ⟨fun _ => 0, .insertWebState 0 2 0 .null⟩]

theorem run_twoTabs :
    Run [.insertedAt 1 0 true, .activatedAt none (some 1) 0 .userAction, .insertedAt 2 1 false]
      (⟨[⟨1, .null⟩, ⟨2, .null⟩], 0⟩ : WebStateList Nat) :=
  Runs.replay twoTabs .start (by decide)

/-- Replacing the active tab is reported. -/
theorem run_activations_twoTabs :
    Faithful (⟨[⟨1, .null⟩, ⟨2, .null⟩], 0⟩ : WebStateList Nat)
      ⟨fun _ => 0, .replaceWebStateAt 0 3⟩
      [.replacedAt 1 3 0, .activatedAt (some 1) (some 3) 0 .replaced]
      ⟨[⟨3, .null⟩, ⟨2, .null⟩], 0⟩ :=
  ((run_activations run_twoTabs).1 _ _ _ (by decide) (by decide)).mpr (fun inactive => inactive rfl)

/-- Replacing the other tab reports that it was active before, which it was not. -/
theorem replacing_inactive_unfaithful :
    ∃ notifications, ∃ list after : WebStateList Nat, Run notifications list ∧
      ∃ input emitted, list.Admissible input ∧ list.step input = some (after, emitted) ∧
        activations emitted = [⟨some 2, some 1, 0⟩] ∧
        list.activeWebState = some 1 ∧ after.activeWebState = some 1 ∧
        list.TouchesInactive input ∧ ¬ list.Faithful input emitted after := by
  refine ⟨_, _, ⟨[⟨1, .null⟩, ⟨3, .null⟩], 0⟩, run_twoTabs,
    ⟨fun _ => 0, .replaceWebStateAt 1 3⟩,
    [.replacedAt 2 3 1, .activatedAt (some 2) (some 1) 0 .replaced],
    by decide, by decide, by decide, by decide, by decide, Int.one_ne_zero, ?_⟩
  intro faithful
  cases faithful.2 Int.one_ne_zero

/-! ## Operations that leave the active WebState -/

/-- A move, an insertion that does not activate, or the detachment of an inactive WebState. -/
def Quiet (list : WebStateList W) (input : Input W) : Prop :=
  match input.operation with
  | .moveWebStateAt _ _ => True
  | .insertWebState _ _ insertionFlags _ => isFlagSet insertionFlags insertActivate = false
  | .detachWebStateAt index => index ≠ list.activeIndex
  | _ => False

theorem activeWebState_of_quiet (wf : list.WellFormed) (admissible : list.Admissible input)
    (quiet : list.Quiet input) (stepped : list.step input = some (after, notifications)) :
    after.activeWebState = list.activeWebState := by
  obtain ⟨lastCommitted, operation⟩ := input
  cases operation with
  | insertWebState index webState insertionFlags opener =>
    obtain ⟨fresh, room, forced, known⟩ := admissible
    obtain ⟨chosen, recorded, nonneg, inside, -, inserted⟩ :=
      insertWebState_spec lastCommitted wf fresh room forced known
    rw [show isFlagSet insertionFlags insertActivate = false from quiet] at inserted
    cases Option.some.inj (inserted.symm.trans stepped)
    exact activeWebState_withNew nonneg inside webState recorded
  | moveWebStateAt source target =>
    obtain ⟨wrapper, taken⟩ := (containsIndex_iff list source).mp admissible.1
    exact (moveWebStateAt_silent taken admissible.2 stepped).2.symm
  | detachWebStateAt index =>
    obtain ⟨⟨detached, left, earlier⟩, removed, result⟩ := Option.map_eq_some_iff.mp stepped
    cases result
    obtain ⟨reported, silent⟩ := detachWebStateAt_reported wf admissible removed
    rcases reported with ⟨-, same⟩ | ⟨told, -⟩
    · exact same.symm
    · rw [silent quiet] at told
      cases told
  | replaceWebStateAt _ _ | closeWebStateAt _ _ | closeAllWebStates _ | activateWebStateAt _
  | setOpenerOfWebStateAt _ _ => cases quiet

omit [DecidableEq W] in
/-- A move erases the WebState and inserts it at the target. -/
theorem webStates_of_move {source target : Int} (outside : list.ContainsIndex target)
    (moved : list.moveWebStateAt source target = some (after, notifications)) :
    ∃ webState, at? list.webStates source = some webState ∧
      after.webStates = insertAt (eraseAt list.webStates source) target webState := by
  have inside : list.ContainsIndex source := (dcheck_then moved).1
  obtain ⟨wrapper, taken⟩ := (containsIndex_iff list source).mp inside
  refine ⟨wrapper.webState, at?_webStates_of_taken taken, ?_⟩
  rw [moveWebStateAt_eq taken outside] at moved
  split at moved <;> cases moved
  · next same =>
      rw [← same, insertAt_eraseAt_self (at?_webStates_of_taken taken)]
  · rw [webStates_withMoved]

/-- From every list that is reached, a run of quiet operations keeps the active WebState at each of
them, and a move leaves the list with the WebState erased and inserted at the target. -/
theorem quietRun_keepsActive {start : WebStateList W} {more : List (Notification W)}
    (run : Run notifications start)
    (quiet : Runs step (fun list input => list.Admissible input ∧ list.Quiet input) start more
      list) :
    list.activeWebState = start.activeWebState ∧
    ∀ input after emitted, list.Admissible input → list.Quiet input →
      list.step input = some (after, emitted) →
        after.activeWebState = list.activeWebState ∧
        ∀ source target, input.operation = .moveWebStateAt source target →
          ∃ webState, at? list.webStates source = some webState ∧
            after.webStates = insertAt (eraseAt list.webStates source) target webState := by
  obtain ⟨wf, same⟩ : list.WellFormed ∧ list.activeWebState = start.activeWebState := by
    refine quiet.invariant
      (fun list => list.WellFormed ∧ list.activeWebState = start.activeWebState)
      ⟨run.wellFormed, rfl⟩ fun known accepted stepped => ?_
    exact ⟨step_wellFormed known.1 accepted.1 stepped,
      (activeWebState_of_quiet known.1 accepted.1 accepted.2 stepped).trans known.2⟩
  refine ⟨same, fun input after emitted admissible silent stepped => ⟨?_, ?_⟩⟩
  · exact activeWebState_of_quiet wf admissible silent stepped
  · intro source target move
    obtain ⟨lastCommitted, operation⟩ := input
    cases move
    exact webStates_of_move admissible.2 stepped

/-- The active tab is moved behind the other one. -/
theorem quietRun_keepsActive_moved :
    activeWebState (⟨[⟨2, .null⟩, ⟨1, .null⟩], 1⟩ : WebStateList Nat) = some 1 :=
  ((quietRun_keepsActive run_twoTabs .start).2 ⟨fun _ => 0, .moveWebStateAt 0 1⟩ _ [.moved 1 0 1]
    (by decide) trivial (by decide)).1

end ChromiumIos.WebStateList
