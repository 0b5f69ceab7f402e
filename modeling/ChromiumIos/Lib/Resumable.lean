import Mathlib

/-!
# Work that is cut by a timer

A long computation asks a timer from time to time whether it may go on, and
leaves its progress in its state when it may not, so that the next call can
resume.  `budget` counts the questions the timer will still answer with yes.
Besides finishing and timing out the work may throw.

`Holds` is the rule of pre- and postconditions for such work, with one
postcondition for each of the three ways it can end.
-/

namespace ChromiumIos.Lib

variable {State : Type*}

/-- How a piece of work ended, with the budget it left over when it finished. -/
inductive Pause (State : Type*) where
  | finished (budget : Nat) (state : State)
  | timedOut (state : State)
  | thrown (state : State)

namespace Pause

/-- Go on with what is left of the budget once a piece of work has finished. -/
def bind (work : Pause State) (next : Nat → State → Pause State) : Pause State :=
  match work with
  | finished budget state => next budget state
  | timedOut state => timedOut state
  | thrown state => thrown state

/-- The three postconditions of a piece of work. -/
def Holds (finish : Nat → State → Prop) (pause throw : State → Prop) : Pause State → Prop
  | finished budget state => finish budget state
  | timedOut state => pause state
  | thrown state => throw state

variable {finish finish' : Nat → State → Prop} {pause pause' throw throw' : State → Prop}
variable {work : Pause State}

theorem Holds.mono (holds : work.Holds finish pause throw)
    (onFinish : ∀ budget state, finish budget state → finish' budget state)
    (onPause : ∀ state, pause state → pause' state)
    (onThrow : ∀ state, throw state → throw' state) : work.Holds finish' pause' throw' := by
  cases work <;> grind [Holds]

theorem Holds.and (first : work.Holds finish pause throw)
    (second : work.Holds finish' pause' throw') :
    work.Holds (fun budget state => finish budget state ∧ finish' budget state)
      (fun state => pause state ∧ pause' state) (fun state => throw state ∧ throw' state) := by
  cases work <;> grind [Holds]

theorem Holds.bind {next : Nat → State → Pause State} (holds : work.Holds finish pause throw)
    (continued : ∀ budget state, finish budget state →
      (next budget state).Holds finish' pause throw) :
    (work.bind next).Holds finish' pause throw := by
  cases work <;> grind [Holds, Pause.bind]

end Pause

/-! ## A loop that asks the timer after every turn -/

inductive Turn (State : Type*) where
  | ended
  | again (state : State)
  | thrown (state : State)

/-- Turn until the loop is over, asking the timer after each turn. -/
def whileTurns (turn : State → Turn State) : Nat → State → Pause State
  | budget, state =>
    match turn state with
    | .ended => .finished budget state
    | .thrown failed => .thrown failed
    | .again next =>
      match budget with
      | 0 => .timedOut next
      | budget + 1 => whileTurns turn budget next

variable {state : State}

section WhileTurns

variable {turn : State → Turn State}

theorem whileTurns_thrown {failed : State} (thrown : turn state = .thrown failed) (budget : Nat) :
    whileTurns turn budget state = .thrown failed := by
  simp [whileTurns, thrown]

variable {next : State}

theorem whileTurns_again_zero (again : turn state = .again next) :
    whileTurns turn 0 state = .timedOut next := by
  simp [whileTurns, again]

theorem whileTurns_again_succ (again : turn state = .again next) (budget : Nat) :
    whileTurns turn (budget + 1) state = whileTurns turn budget next := by
  rw [whileTurns, again]

/-- What every turn keeps holds where the loop ends and wherever it is cut. -/
theorem whileTurns_holds {Kept throw : State → Prop}
    (again : ∀ {state next}, Kept state → turn state = .again next → Kept next)
    (thrown : ∀ {state failed}, Kept state → turn state = .thrown failed → throw failed)
    (budget : Nat) (kept : Kept state) :
    (whileTurns turn budget state).Holds
      (fun _ last => Kept last ∧ turn last = .ended) Kept throw := by
  induction budget generalizing state with
  | zero =>
    cases turned : turn state with
    | ended =>
      simp [Pause.Holds, whileTurns, turned, kept]
    | again _ =>
      rw [whileTurns_again_zero turned]
      exact again kept turned
    | thrown _ =>
      rw [whileTurns_thrown turned]
      exact thrown kept turned
  | succ _ ih =>
    cases turned : turn state with
    | ended =>
      simp [Pause.Holds, whileTurns, turned, kept]
    | again _ =>
      rw [whileTurns_again_succ turned]
      exact ih (again kept turned)
    | thrown _ =>
      rw [whileTurns_thrown turned]
      exact thrown kept turned

/-- A loop whose turns lower a measure is not cut when the budget covers it. -/
theorem whileTurns_completes (Kept : State → Prop) (measure : State → Nat)
    (again : ∀ {state next}, Kept state → turn state = .again next →
      Kept next ∧ measure next < measure state) {budget : Nat} (kept : Kept state)
    (covered : measure state ≤ budget) :
    (whileTurns turn budget state).Holds (fun left _ => budget ≤ left + measure state)
      (fun _ => False) (fun _ => True) := by
  induction budget generalizing state with
  | zero =>
    cases turned : turn state with
    | ended =>
      simp [Pause.Holds, whileTurns, turned]
    | again _ =>
      have lowered := (again kept turned).2
      omega
    | thrown _ =>
      rw [whileTurns_thrown turned]
      trivial
  | succ _ ih =>
    cases turned : turn state with
    | ended =>
      simp [Pause.Holds, whileTurns, turned]
    | again _ =>
      obtain ⟨keptNext, lowered⟩ := again kept turned
      rw [whileTurns_again_succ turned]
      apply (ih keptNext (by omega)).mono
      · intro left _ enough
        omega
      · simp
      · intro _ _
        trivial
    | thrown _ =>
      rw [whileTurns_thrown turned]
      trivial

end WhileTurns

/-! ## A loop over indices that asks the timer before every turn -/

/-- Treat `count` indices from `index` on; the index reached is recorded only
when the timer cuts the loop. -/
def forIndices (record body : Nat → State → State) : Nat → Nat → Nat → State → Pause State
  | 0, _, budget, state => .finished budget state
  | _ + 1, index, 0, state => .timedOut (record index state)
  | count + 1, index, budget + 1, state =>
    forIndices record body count (index + 1) budget (body index state)

/-- The loop without a timer. -/
def forIndicesUncut (body : Nat → State → State) : Nat → Nat → State → State
  | 0, _, state => state
  | count + 1, index, state => forIndicesUncut body count (index + 1) (body index state)

section ForIndices

variable {record body : Nat → State → State}

/-- The first of the indices up to `stop` taken apart. -/
theorem forIndicesUncut_step {stop index : Nat} (below : index < stop) (state : State) :
    forIndicesUncut body (stop - (index + 1)) (index + 1) (body index state) =
      forIndicesUncut body (stop - index) index state := by
  rw [show stop - index = stop - (index + 1) + 1 by omega]
  rfl

/-- What holds at an index and is carried to the next one by the body holds at
the last one, or at the index the loop was cut at. -/
theorem forIndices_holds {Kept : Nat → State → Prop} {throw : State → Prop} (count index : Nat)
    (budget : Nat)
    (carried : ∀ {current state}, index ≤ current → current < index + count →
      Kept current state → Kept (current + 1) (body current state)) (kept : Kept index state) :
    (forIndices record body count index budget state).Holds
      (fun _ last => Kept (index + count) last)
      (fun cut => ∃ current last, index ≤ current ∧ current < index + count ∧
        Kept current last ∧ cut = record current last) throw := by
  induction count generalizing index budget state with
  | zero => exact kept
  | succ _ ih =>
    cases budget with
    | zero => exact ⟨index, state, Nat.le_refl _, by omega, kept, rfl⟩
    | succ budget =>
      have rest := ih (index + 1) budget
        (fun above below => carried (by omega) (by omega))
        (carried (Nat.le_refl _) (by omega) kept)
      apply rest.mono
      · grind
      · grind
      · intro _ thrown
        exact thrown

/-- The loop is not cut when the budget covers the indices it treats. -/
theorem forIndices_completes (count index budget : Nat) (state : State)
    (covered : count ≤ budget) :
    (forIndices record body count index budget state).Holds
      (fun left _ => budget ≤ left + count) (fun _ => False) (fun _ => True) := by
  induction count generalizing index budget state with
  | zero => exact Nat.le_refl budget
  | succ _ _ =>
    cases budget <;> grind [Pause.Holds, forIndices]

end ForIndices

end ChromiumIos.Lib
