import ChromiumIos.Lib.Checked

/-!
# Runs of an asserting step function

A system takes inputs one after the other; each step may fail an assertion and
otherwise yields the next state together with the outputs it emitted.  A run
collects the outputs in order.  `accepts` is the precondition under which an
input may be offered in a state.
-/

namespace ChromiumIos.Lib

variable {State Input Output : Type*}

/-- The outputs emitted so far and the state reached by a run from `initial`. -/
inductive Runs (step : State → Input → Checked (State × List Output))
    (accepts : State → Input → Prop) (initial : State) : List Output → State → Prop where
  | start : Runs step accepts initial [] initial
  | next {outputs emitted : List Output} {state after : State} {input : Input}
      (before : Runs step accepts initial outputs state)
      (accepted : accepts state input)
      (stepped : step state input = some (after, emitted)) :
      Runs step accepts initial (outputs ++ emitted) after

namespace Runs

variable {step : State → Input → Checked (State × List Output)}
variable {accepts accepts' : State → Input → Prop} {initial state : State}
variable {outputs : List Output}

/-- What holds at the start and is kept by every accepted step holds in every
state of every run. -/
theorem invariant (Holds : State → Prop) (run : Runs step accepts initial outputs state)
    (base : Holds initial)
    (kept : ∀ {state after input emitted}, Holds state → accepts state input →
      step state input = some (after, emitted) → Holds after) :
    Holds state := by
  induction run with
  | start => exact base
  | next _ accepted stepped ih => exact kept ih accepted stepped

/-- The same rule for a relation between the outputs of the run and its state. -/
theorem invariant_outputs (Holds : List Output → State → Prop)
    (run : Runs step accepts initial outputs state) (base : Holds [] initial)
    (kept : ∀ {outputs state after input emitted}, Runs step accepts initial outputs state →
      Holds outputs state → accepts state input →
      step state input = some (after, emitted) → Holds (outputs ++ emitted) after) :
    Holds outputs state := by
  induction run with
  | start => exact base
  | next before accepted stepped ih => exact kept before ih accepted stepped

variable {more : List Output}

/-- A run may be continued by a run from the state it has reached. -/
theorem trans {last : State} (first : Runs step accepts initial outputs state)
    (rest : Runs step accepts state more last) :
    Runs step accepts initial (outputs ++ more) last := by
  induction rest with
  | start => simpa using first
  | next _ accepted stepped ih =>
    rw [← List.append_assoc]
    exact .next ih accepted stepped

/-- A run under a stronger precondition is a run under a weaker one. -/
theorem mono (run : Runs step accepts initial outputs state)
    (weaker : ∀ {state input}, accepts state input → accepts' state input) :
    Runs step accepts' initial outputs state := by
  induction run with
  | start => exact .start
  | next _ accepted stepped ih => exact .next ih (weaker accepted) stepped

/-! ## Steps with one output each -/

section Single

variable (single : ∀ {state after : State} {input : Input} {emitted : List Output},
  step state input = some (after, emitted) → ∃ output, emitted = [output])

include single

theorem eq_of_no_outputs (run : Runs step accepts initial [] state) : state = initial := by
  generalize none : ([] : List Output) = outputs at run
  cases run with
  | start => rfl
  | next _ _ stepped =>
    obtain ⟨_, rfl⟩ := single stepped
    simpa using none.symm

/-- The first output of a run is that of its first step. -/
theorem first {output : Output} (run : Runs step accepts initial (output :: outputs) state) :
    ∃ input middle, accepts initial input ∧ step initial input = some (middle, [output]) ∧
      Runs step accepts middle outputs state := by
  generalize split : output :: outputs = all at run
  induction run generalizing outputs with
  | start => cases split
  | next before accepted stepped ih =>
    rename_i previous emitted last after input
    obtain ⟨last, rfl⟩ := single stepped
    cases previous with
    | nil =>
      cases split
      cases before.eq_of_no_outputs single
      exact ⟨input, after, accepted, stepped, .start⟩
    | cons head tail =>
      obtain ⟨rfl, rfl⟩ := List.cons.inj split
      obtain ⟨input, middle, acceptedFirst, steppedFirst, rest⟩ := ih rfl
      exact ⟨input, middle, acceptedFirst, steppedFirst, .next rest accepted stepped⟩

/-- A run may be cut anywhere between two outputs. -/
theorem split (run : Runs step accepts initial (outputs ++ more) state) :
    ∃ middle, Runs step accepts initial outputs middle ∧ Runs step accepts middle more state := by
  induction outputs generalizing initial with
  | nil => exact ⟨initial, .start, run⟩
  | cons _ _ ih =>
    obtain ⟨_, _, accepted, stepped, run⟩ := run.first single
    obtain ⟨middle, before, after⟩ := ih run
    refine ⟨middle, ?_, after⟩
    exact Runs.trans (.next .start accepted stepped) before

end Single

end Runs

/-- Offer a list of inputs one after the other; `none` if one is not accepted or fails. -/
def replay? (step : State → Input → Checked (State × List Output))
    (accepts : State → Input → Prop) [∀ state input, Decidable (accepts state input)] :
    State → List Input → Checked (State × List Output)
  | state, [] => some (state, [])
  | state, input :: rest =>
    (dcheck (accepts state input)).bind fun _ =>
      (step state input).bind fun (after, emitted) =>
        (replay? step accepts after rest).map fun (last, more) => (last, emitted ++ more)

variable {Holds : State → Prop} {state last initial : State} {inputs : List Input} {input : Input}
  {accepts : State → Input → Prop} {emitted outputs : List Output}
  {step : State → Input → Checked (State × List Output)}

theorem replay?_cons_eq_some [∀ state input, Decidable (accepts state input)] {rest : List Input} :
    replay? step accepts initial (input :: rest) = some (last, outputs) ↔
      accepts initial input ∧ ∃ middle head tail, step initial input = some (middle, head) ∧
        replay? step accepts middle rest = some (last, tail) ∧ outputs = head ++ tail := by
  constructor
  · intro replayed
    obtain ⟨accepted, replayed⟩ := dcheck_bind_eq_some.mp replayed
    obtain ⟨⟨middle, head⟩, stepped, replayed⟩ := Option.bind_eq_some_iff.mp replayed
    obtain ⟨⟨final, tail⟩, continued, result⟩ := Option.map_eq_some_iff.mp replayed
    grind
  · rintro ⟨accepted, middle, head, tail, stepped, continued, rfl⟩
    simp [replay?, accepted, stepped, continued]

/-- One input more can be replayed where it is accepted and does not fail. -/
theorem replay?_concat [∀ state input, Decidable (accepts state input)]
    (replayed : replay? step accepts initial inputs = some (state, outputs))
    (accepted : accepts state input) (stepped : step state input = some (last, emitted)) :
    replay? step accepts initial (inputs ++ [input]) = some (last, outputs ++ emitted) := by
  induction inputs generalizing initial outputs with
  | nil =>
    cases replayed
    simp [replay?, accepted, stepped]
  | cons _ _ ih =>
    obtain ⟨acceptedFirst, _, _, _, steppedFirst, continued, rfl⟩ :=
      replay?_cons_eq_some.mp replayed
    simp [replay?, acceptedFirst, steppedFirst, ih, continued]

/-- The last of several inputs was offered where the others have led. -/
theorem replay?_concat_eq_some [∀ state input, Decidable (accepts state input)]
    (replayed : replay? step accepts initial (inputs ++ [input]) = some (last, outputs)) :
    ∃ state before emitted, replay? step accepts initial inputs = some (state, before) ∧
      accepts state input ∧ step state input = some (last, emitted) ∧
      outputs = before ++ emitted := by
  induction inputs generalizing initial outputs with
  | nil =>
    obtain ⟨accepted, middle, head, tail, stepped, ended, rfl⟩ :=
      replay?_cons_eq_some.mp replayed
    cases ended
    exact ⟨initial, [], head, rfl, accepted, stepped, List.append_nil head⟩
  | cons _ _ ih =>
    obtain ⟨acceptedFirst, _, head, _, steppedFirst, continued, rfl⟩ :=
      replay?_cons_eq_some.mp replayed
    obtain ⟨state, before, emitted, reached, accepted, stepped, rfl⟩ := ih continued
    exact ⟨state, head ++ before, emitted,
      (by simp [replay?, acceptedFirst, steppedFirst, reached]),
      accepted, stepped, (List.append_assoc _ _ _).symm⟩

/-- Inputs that could be replayed extend a run. -/
theorem Runs.replay {step : State → Input → Checked (State × List Output)}
    {accepts : State → Input → Prop} [∀ state input, Decidable (accepts state input)]
    {initial state last : State} {outputs more : List Output} (inputs : List Input)
    (run : Runs step accepts initial outputs state)
    (replayed : replay? step accepts state inputs = some (last, more)) :
    Runs step accepts initial (outputs ++ more) last := by
  induction inputs generalizing state outputs more with
  | nil =>
    cases replayed
    simpa using run
  | cons _ _ ih =>
    obtain ⟨accepted, _, _, _, stepped, continued, rfl⟩ :=
      replay?_cons_eq_some.mp replayed
    simpa using ih (.next run accepted stepped) continued

/-- Steps that never fail and keep what is known of the outputs and the state can be made one
after the other. -/
theorem exists_replay? {Holds : List Output → State → Prop} (inputs : List Input)
    (base : Holds outputs state) (kept : ∀ {outputs state} input, Holds outputs state →
      ∃ after emitted, step state input = some (after, emitted) ∧
        Holds (outputs ++ emitted) after) :
    ∃ last more, replay? step (fun _ _ => True) state inputs = some (last, more) ∧
      Holds (outputs ++ more) last := by
  induction inputs generalizing outputs state with
  | nil => exact ⟨state, [], rfl, by rwa [List.append_nil]⟩
  | cons input _ ih =>
    obtain ⟨_, emitted, stepped, holds⟩ := kept input base
    obtain ⟨last, more, replayed, _⟩ := ih holds
    refine ⟨last, emitted ++ more, ?_, by rwa [← List.append_assoc]⟩
    simp [replay?, stepped, replayed]

/-- What every step keeps is kept by a sequence of steps that emit nothing. -/
theorem foldlM_invariant {step : State → Input → Checked State}
    (performed : inputs.foldlM step initial = some last) (base : Holds initial)
    (kept : ∀ {state input after}, Holds state → step state input = some after → Holds after) :
    Holds last := by
  induction inputs generalizing initial with
  | nil =>
    cases performed
    exact base
  | cons _ _ _ =>
    obtain ⟨next, stepped, performed⟩ := Option.bind_eq_some_iff.mp performed
    grind

/-! ## Observers -/

section Observers

variable {Observer : Type*} {step : State → Input → Checked (State × List Output)}
variable {observe : Observer → Output → Checked Observer}

/-- The step function of a system together with an observer of its outputs. -/
def attach (step : State → Input → Checked (State × List Output))
    (observe : Observer → Output → Checked Observer) (state : State × Observer) (input : Input) :
    Checked ((State × Observer) × List Output) :=
  (step state.1 input).bind fun (after, emitted) =>
    (emitted.foldlM observe state.2).map fun observer => ((after, observer), emitted)

theorem attach_eq_some_iff {state after : State × Observer} :
    attach step observe state input = some (after, emitted) ↔
      step state.1 input = some (after.1, emitted) ∧
        emitted.foldlM observe state.2 = some after.2 := by
  obtain ⟨left, right⟩ := after
  constructor
  · intro stepped
    obtain ⟨⟨next, reported⟩, stepped, observed⟩ := Option.bind_eq_some_iff.mp stepped
    obtain ⟨observer, observed, result⟩ := Option.map_eq_some_iff.mp observed
    grind
  · grind [attach]

end Observers

/-! ## Steps that see what was emitted before -/

section Logged

variable {step : State → Input → Checked (State × List Output)}

/-- The step function of a system whose outputs are kept beside its state. -/
def logged (step : State → Input → Checked (State × List Output)) (state : State × List Output)
    (input : Input) : Checked ((State × List Output) × List Output) :=
  (step state.1 input).map fun (after, emitted) => ((after, state.2 ++ emitted), emitted)

theorem logged_eq_some {state after : State × List Output}
    (stepped : logged step state input = some (after, emitted)) :
    step state.1 input = some (after.1, emitted) ∧ after.2 = state.2 ++ emitted := by
  obtain ⟨⟨next, told⟩, performed, result⟩ := Option.map_eq_some_iff.mp stepped
  grind

/-- What is kept beside the state is what the run has emitted. -/
theorem Runs.logged_snd {accepts : State × List Output → Input → Prop}
    {state : State × List Output} (run : Runs (logged step) accepts (initial, []) outputs state) :
    state.2 = outputs := by
  induction run with
  | start => rfl
  | next _ _ stepped ih => rw [(logged_eq_some stepped).2, ih]

end Logged

/-- A finite sequence of effects, with everything they emit in order. -/
inductive Chain (Effect : State → List Output → State → Prop) :
    State → List Output → State → Prop where
  | refl (state : State) : Chain Effect state [] state
  | head {first middle last : State} {emitted more : List Output}
      (effect : Effect first emitted middle) (rest : Chain Effect middle more last) :
      Chain Effect first (emitted ++ more) last

namespace Chain

variable {Effect : State → List Output → State → Prop} {first middle last : State}
variable {emitted more : List Output}

theorem single (effect : Effect first emitted last) : Chain Effect first emitted last := by
  simpa using Chain.head effect (.refl last)

theorem trans (left : Chain Effect first emitted middle) (right : Chain Effect middle more last) :
    Chain Effect first (emitted ++ more) last := by
  induction left with
  | refl => exact right
  | head effect _ ih =>
    simpa using .head effect (ih right)

/-- What every effect keeps is kept by a sequence of effects. -/
theorem invariant (chain : Chain Effect first emitted last) (base : Holds first)
    (kept : ∀ {first emitted last}, Holds first → Effect first emitted last → Holds last) :
    Holds last := by
  induction chain with
  | refl => exact base
  | head effect _ ih => exact ih (kept base effect)

end Chain

end ChromiumIos.Lib
