import ChromiumIos.Lib.Checked

/-!
# Computations on a state that may fail an assertion

A computation reads and writes one state and stops at the first assertion that
fails.  An invariant is kept by a computation when every way it can return
leaves the invariant true; the rules below follow the way computations are put
together.

A change of the state goes unnoticed by a computation when the computation does
the same before and after it.  Where computations are put together, an invariant
is kept and a change goes unnoticed for the same reasons, so that one rule covers
both.

Some reads write: a value that is missing is made on the first read and is
stored.  Such reads are memoised when a second read returns what the first one
stored and no read changes what another has stored.
-/

namespace ChromiumIos.Lib

variable {σ α β ι : Type}

abbrev Stateful (σ α : Type) := StateT σ Option α

variable {after state : σ} {second : Stateful σ α} {step : ι → Stateful σ PUnit} {value : α}
  {indices : List ι} {update : σ → σ} {condition : Prop}

namespace Stateful

variable {result : β} {checked : Checked α} {first : Stateful σ α} {rest : α → Stateful σ β}

/-- The steps of a computation that returned. -/
theorem bind_run (returned : (first >>= rest) state = some (result, after)) :
    ∃ value middle, first state = some (value, middle) ∧
      rest value middle = some (result, after) := by
  obtain ⟨⟨value, middle⟩, ran, continued⟩ := Option.bind_eq_some_iff.mp returned
  grind

theorem run_bind {middle : σ} (ran : first state = some (value, middle)) :
    (first >>= rest) state = rest value middle := by
  change (first state).bind (fun pair => rest pair.1 pair.2) = _
  rw [ran, Option.bind_some]

theorem run_get (rest : σ → Stateful σ β) (state : σ) :
    (get >>= rest) state = rest state state := rfl

theorem run_modify (update : σ → σ) (rest : PUnit → Stateful σ β) (state : σ) :
    (modify update >>= rest) state = rest ⟨⟩ (update state) := rfl

theorem run_lift (returned : checked = some value) (state : σ) :
    (liftM checked : Stateful σ α) state = some (value, state) := by
  rw [returned]
  rfl

theorem lift_run (returned : (liftM checked : Stateful σ α) state = some (value, after)) :
    checked = some value ∧ after = state := by
  cases checked with
  | none => cases returned
  | some _ =>
    cases returned
    exact ⟨rfl, rfl⟩

/-- A computation that starts with an assertion returns only if the assertion holds. -/
theorem dcheck_run [Decidable condition] {rest : Unit → Stateful σ β}
    (returned : ((liftM (dcheck condition) : Stateful σ Unit) >>= rest) state =
      some (result, after)) : condition ∧ rest () state = some (result, after) := by
  obtain ⟨_, _, ran, continued⟩ := bind_run returned
  obtain ⟨checked, same⟩ := lift_run ran
  rw [same] at continued
  exact ⟨dcheck_eq_some.mp checked, continued⟩

/-- Without an assertion in the way the rest starts from the same state. -/
theorem run_dcheck [Decidable condition] (rest : Unit → Stateful σ β) (state : σ) :
    ((liftM (dcheck condition) : Stateful σ Unit) >>= rest) state =
      if condition then rest () state else none := by
  by_cases holds : condition
  · rw [if_pos holds]
    exact run_bind (run_lift (dcheck_eq_some.mpr holds) state)
  · rw [if_neg holds, dcheck, if_neg holds]
    rfl

end Stateful

/-! ## Invariants -/

/-- Whenever the computation returns, what held before holds after it. -/
def Keeps (Holds : σ → Prop) (computation : Stateful σ α) : Prop :=
  ∀ ⦃state result after⦄, Holds state → computation state = some (result, after) → Holds after

variable {read : ι → Stateful σ α}

namespace Keeps

variable {Holds : σ → Prop} {first : Stateful σ α} {rest : α → Stateful σ β}

theorem pure (value : α) : Keeps Holds (Pure.pure value : Stateful σ α) := by
  intro state result after holds returned
  cases returned
  exact holds

theorem bind (kept : Keeps Holds first) (continued : ∀ value, Keeps Holds (rest value)) :
    Keeps Holds (first >>= rest) := by
  intro state result after holds returned
  obtain ⟨value, _, ran, returned⟩ := Stateful.bind_run returned
  exact continued value (kept holds ran) returned

theorem get : Keeps Holds (MonadState.get : Stateful σ σ) := by
  intro state result after holds returned
  cases returned
  exact holds

theorem modify (kept : ∀ state, Holds state → Holds (update state)) :
    Keeps Holds (modify update : Stateful σ PUnit) := by
  intro state result after holds returned
  cases returned
  exact kept state holds

theorem lift (checked : Checked α) : Keeps Holds (liftM checked : Stateful σ α) := by
  intro state result after holds returned
  obtain ⟨-, same⟩ := Stateful.lift_run returned
  grind

theorem ite [Decidable condition] (whenTrue : condition → Keeps Holds first)
    (whenFalse : ¬ condition → Keeps Holds second) :
    Keeps Holds (if condition then first else second) := by
  grind

theorem mapM (kept : ∀ index, Keeps Holds (read index)) (indices : List ι) :
    Keeps Holds (indices.mapM read) := by
  induction indices with
  | nil => exact pure []
  | cons _ _ _ =>
    grind [bind, pure]

theorem forM (kept : ∀ index, Keeps Holds (step index)) (indices : List ι) :
    Keeps Holds (indices.forM step) := by
  induction indices with
  | nil => exact pure PUnit.unit
  | cons index _ ih => exact (kept index).bind fun _ => ih

end Keeps

/-- Whenever the computation returns, what held before holds after it and of what it returned
the second property holds. -/
def Ensures (Holds : σ → Prop) (computation : Stateful σ α) (Good : α → Prop) : Prop :=
  ∀ ⦃state result after⦄, Holds state → computation state = some (result, after) →
    Holds after ∧ Good result

namespace Ensures

variable {Holds : σ → Prop} {first : Stateful σ α} {rest : α → Stateful σ β}
variable {Middle : α → Prop} {Good : β → Prop}

theorem pure {value : β} (good : Good value) :
    Ensures Holds (Pure.pure value : Stateful σ β) Good := by
  intro state result after holds returned
  cases returned
  grind

/-- The rest may rely on what the first part ensures of its result. -/
theorem bind (ensured : Ensures Holds first Middle)
    (continued : ∀ value, Middle value → Ensures Holds (rest value) Good) :
    Ensures Holds (first >>= rest) Good := by
  intro state result after holds returned
  obtain ⟨value, _, ran, returned⟩ := Stateful.bind_run returned
  obtain ⟨still, good⟩ := ensured holds ran
  exact continued value good still returned

theorem get_bind {rest : σ → Stateful σ β}
    (continued : ∀ state, Holds state → Ensures Holds (rest state) Good) :
    Ensures Holds (get >>= rest) Good := by
  grind [Ensures, Stateful.run_get]

theorem modify_bind {rest : PUnit → Stateful σ β}
    (kept : ∀ state, Holds state → Holds (update state))
    (continued : Ensures Holds (rest ⟨⟩) Good) : Ensures Holds (modify update >>= rest) Good := by
  grind [Ensures, Stateful.run_modify]

theorem modify (kept : ∀ state, Holds state → Holds (update state)) :
    Ensures Holds (modify update : Stateful σ PUnit) fun _ => True := by
  intro state result after holds returned
  cases returned
  grind

/-- What is known of a checked value is known of what it returns. -/
theorem lift {checked : Checked β} (good : ∀ value, checked = some value → Good value) :
    Ensures Holds (liftM checked : Stateful σ β) Good := by
  intro state result after holds returned
  grind [Stateful.lift_run]

theorem ite [Decidable condition] {one other : Stateful σ β}
    (whenTrue : condition → Ensures Holds one Good)
    (whenFalse : ¬ condition → Ensures Holds other Good) :
    Ensures Holds (if condition then one else other) Good := by
  grind

end Ensures

/-! ## Changes that go unnoticed -/

/-- The computation returns the same on a shifted state and leaves it shifted. -/
def Commutes (shift : σ → σ) (computation : Stateful σ α) : Prop :=
  ∀ state, computation (shift state) = (computation state).map (Prod.map id shift)

/-- The rest has to commute only for the values that the first part can return. -/
theorem Commutes.bind {shift : σ → σ} {first : Stateful σ α} {rest : α → Stateful σ β}
    (commutes : Commutes shift first)
    (continued : ∀ {value state middle}, first state = some (value, middle) →
      Commutes shift (rest value)) :
    Commutes shift (first >>= rest) := by
  intro state
  change (first (shift state)).bind (fun pair => rest pair.1 pair.2) =
    ((first state).bind fun pair => rest pair.1 pair.2).map _
  rw [commutes state]
  cases ran : first state with
  | none => rfl
  | some pair => exact continued ran pair.2

/-- The computation keeps an invariant and does not notice a shift of the state. -/
structure Respects (shift : σ → σ) (Holds : σ → Prop) (computation : Stateful σ α) : Prop where
  keeps : Keeps Holds computation
  commutes : Commutes shift computation

namespace Respects

variable {shift : σ → σ} {Holds : σ → Prop} {first : Stateful σ α} {rest : α → Stateful σ β}

theorem pure (value : α) : Respects shift Holds (Pure.pure value : Stateful σ α) :=
  ⟨.pure value, fun _ => rfl⟩

/-- What the first part returned may be used for the rest. -/
theorem bind_returned (respects : Respects shift Holds first)
    (continued : ∀ {value state middle}, first state = some (value, middle) →
      Respects shift Holds (rest value)) :
    Respects shift Holds (first >>= rest) where
  keeps := by
    intro state result after holds returned
    obtain ⟨_, _, ran, returned⟩ := Stateful.bind_run returned
    exact (continued ran).keeps (respects.keeps holds ran) returned
  commutes := respects.commutes.bind fun ran => (continued ran).commutes

theorem bind (respects : Respects shift Holds first)
    (continued : ∀ value, Respects shift Holds (rest value)) :
    Respects shift Holds (first >>= rest) :=
  respects.bind_returned fun _ => continued _

/-- What is done with the state that was read may depend only on what is not shifted. -/
theorem get_bind {rest : σ → Stateful σ β} (unnoticed : ∀ state, rest (shift state) = rest state)
    (continued : ∀ state, Respects shift Holds (rest state)) :
    Respects shift Holds (get >>= rest) where
  keeps := Keeps.get.bind fun state => (continued state).keeps
  commutes := by
    intro state
    simpa [Stateful.run_get, unnoticed] using (continued state).commutes state

theorem modify {update : σ → σ} (kept : ∀ state, Holds state → Holds (update state))
    (unnoticed : ∀ state, update (shift state) = shift (update state)) :
    Respects shift Holds (modify update : Stateful σ PUnit) where
  keeps := .modify kept
  commutes := fun state => congrArg (fun after => some (PUnit.unit, after)) (unnoticed state)

theorem lift (checked : Checked α) : Respects shift Holds (liftM checked : Stateful σ α) where
  keeps := .lift checked
  commutes := by
    intro state
    cases checked with
    | none | some value => rfl

theorem ite [Decidable condition] (whenTrue : condition → Respects shift Holds first)
    (whenFalse : ¬ condition → Respects shift Holds second) :
    Respects shift Holds (if condition then first else second) := by
  grind

theorem mapM (respects : ∀ index, Respects shift Holds (read index)) (indices : List ι) :
    Respects shift Holds (indices.mapM read) := by
  induction indices with
  | nil => exact pure []
  | cons _ _ _ =>
    grind [bind, pure]

theorem forM (respects : ∀ index, Respects shift Holds (step index)) (indices : List ι) :
    Respects shift Holds (indices.forM step) := by
  induction indices with
  | nil => exact pure PUnit.unit
  | cons index _ ih => exact (respects index).bind fun _ => ih

end Respects

/-! ## Reads that store what they return -/

theorem length_mapM {values : List α} (ran : indices.mapM read state = some (values, after)) :
    values.length = indices.length := by
  induction indices generalizing state values with
  | nil =>
    cases ran
    rfl
  | cons _ _ _ =>
    rw [List.mapM_cons] at ran
    obtain ⟨first, middle, _, ran⟩ := Stateful.bind_run ran
    obtain ⟨others, last, readOthers, ran⟩ := Stateful.bind_run ran
    cases ran
    grind

/-- A value read once is the value read from then on, whatever else is read. -/
structure Memoised (read : ι → Stateful σ α) : Prop where
  settles : ∀ {index value state after}, read index state = some (value, after) →
    read index after = some (value, after)
  stable : ∀ {settled index value other state after},
    read settled state = some (value, state) → read index state = some (other, after) →
    read settled after = some (value, after)

namespace Memoised

variable {read : ι → Stateful σ α} {state after : σ} {values : List α}

/-- A settled value stays settled through any sequence of reads. -/
theorem stable_mapM (memoised : Memoised read) {settled : ι}
    (known : read settled state = some (value, state))
    (ran : indices.mapM read state = some (values, after)) :
    read settled after = some (value, after) := by
  induction indices generalizing state values with
  | nil =>
    cases ran
    exact known
  | cons _ _ _ =>
    rw [List.mapM_cons] at ran
    obtain ⟨first, middle, readFirst, ran⟩ := Stateful.bind_run ran
    obtain ⟨others, last, readOthers, ran⟩ := Stateful.bind_run ran
    cases ran
    grind [memoised.stable]

/-- The values that a sequence of reads returns are settled in the end. -/
theorem mapM_settled (memoised : Memoised read)
    (ran : indices.mapM read state = some (values, after)) :
    ∀ (position : Nat) (index : ι), indices[position]? = some index →
      ∃ value, values[position]? = some value ∧ read index after = some (value, after) := by
  induction indices generalizing state values with
  | nil =>
    simp
  | cons _ _ ih =>
    rw [List.mapM_cons] at ran
    obtain ⟨first, _, readFirst, ran⟩ := Stateful.bind_run ran
    obtain ⟨_, _, readOthers, ran⟩ := Stateful.bind_run ran
    cases ran
    intro position index found
    cases position with
    | zero =>
      cases found
      exact ⟨first, rfl, memoised.stable_mapM (memoised.settles readFirst) readOthers⟩
    | succ position => exact ih readOthers position index found

end Memoised

/-- A sequence of reads that all return returns. -/
theorem mapM_returns
    (returns : ∀ index state, ∃ value after, read index state = some (value, after))
    (indices : List ι) (state : σ) :
    ∃ values after, indices.mapM read state = some (values, after) := by
  induction indices generalizing state with
  | nil => exact ⟨[], state, rfl⟩
  | cons index _ ih =>
    obtain ⟨first, middle, readFirst⟩ := returns index state
    obtain ⟨others, last, readOthers⟩ := ih middle
    refine ⟨first :: others, last, ?_⟩
    rw [List.mapM_cons, Stateful.run_bind readFirst, Stateful.run_bind readOthers]
    rfl

end ChromiumIos.Lib
