import ChromiumIos.Lib.Checked

/-!
# Sorts that ask a comparator

A sort by comparisons is a tree: it asks for the order of two elements and goes on as the
answer tells, or it is done.  The comparator may have a state that its answers change.  When
all the answers given on the way agree with one order, the result is what the sort makes of
that order, whatever else the comparator would have answered.
-/

namespace ChromiumIos.Lib

inductive Comparisons (α : Type) where
  | done (result : List α)
  | compare (first second : α) (next : Ordering → Comparisons α)

/-- An answer that a comparator gave. -/
structure Comparison (α : Type) where
  first : α
  second : α
  answer : Ordering
deriving DecidableEq

namespace Comparisons

variable {α σ : Type}

def run (comparator : α → α → σ → Checked (Ordering × σ)) :
    Comparisons α → σ → Checked (List α × List (Comparison α) × σ)
  | done result, state => some (result, [], state)
  | compare first second next, state => do
      let (answer, state) ← comparator first second state
      let (result, answers, state) ← (next answer).run comparator state
      return (result, ⟨first, second, answer⟩ :: answers, state)

def evaluate (comparator : α → α → Ordering) : Comparisons α → List α
  | done result => result
  | compare first second next => (next (comparator first second)).evaluate comparator

/-- The elements that are compared. -/
inductive Within (inside : α → Prop) : Comparisons α → Prop where
  | done (result : List α) : Within inside (done result)
  | compare {first second : α} {next : Ordering → Comparisons α} (firstInside : inside first)
      (secondInside : inside second) (rest : ∀ answer, Within inside (next answer)) :
      Within inside (compare first second next)

variable {comparator : α → α → σ → Checked (Ordering × σ)} {tree : Comparisons α}
variable {state after : σ} {result : List α} {answers : List (Comparison α)}

/-- A function that agrees with all the answers leads to the same result. -/
theorem evaluate_eq_of_run {function : α → α → Ordering}
    (ran : tree.run comparator state = some (result, answers, after))
    (agrees : ∀ comparison ∈ answers,
      function comparison.first comparison.second = comparison.answer) :
    tree.evaluate function = result := by
  induction tree generalizing state answers with
  | done _ =>
    cases ran
    rfl
  | compare first second _ _ =>
    obtain ⟨⟨answer, middle⟩, -, ran⟩ := bind_eq_some ran
    obtain ⟨⟨made, later, last⟩, continued, ran⟩ := bind_eq_some ran
    cases ran
    have same : function first second = answer := agrees _ List.mem_cons_self
    rw [evaluate, same]
    grind

/-- A comparator that always answers on the elements compared, keeps an invariant, and whose
answers are settled once given, leaves all its answers settled. -/
theorem run_spec {inside : α → Prop} {Holds : σ → Prop} {Settled : σ → Comparison α → Prop}
    (within : tree.Within inside) (holds : Holds state)
    (compares : ∀ {first second state}, inside first → inside second → Holds state →
      ∃ answer after, comparator first second state = some (answer, after) ∧ Holds after ∧
        Settled after ⟨first, second, answer⟩ ∧
        ∀ comparison, Settled state comparison → Settled after comparison) :
    ∃ result answers after, tree.run comparator state = some (result, answers, after) ∧
      Holds after ∧ (∀ comparison ∈ answers, Settled after comparison) ∧
      ∀ comparison, Settled state comparison → Settled after comparison := by
  induction within generalizing state with
  | done _ => simp [run, holds]
  | @compare first second _ firstInside secondInside _ ih =>
    obtain ⟨answer, middle, answered, middleHolds, settled, kept⟩ :=
      compares firstInside secondInside holds
    obtain ⟨result, answers, after, ran, afterHolds, all, later⟩ := ih answer middleHolds
    refine ⟨result, ⟨first, second, answer⟩ :: answers, after, ?_, afterHolds, ?_,
      fun comparison had => later comparison (kept comparison had)⟩
    · simp [run, answered, ran]
    · grind

end Comparisons

def compareBy {α κ : Type} [LinearOrder κ] (key : α → κ) (first second : α) : Ordering :=
  cmp (key first) (key second)

structure ComparisonSort (α : Type) where
  tree : List α → Comparisons α
  within : ∀ input, (tree input).Within (· ∈ input)
  perm : ∀ {κ : Type} [LinearOrder κ] (key : α → κ) (input : List α),
    ((tree input).evaluate (compareBy key)).Perm input
  sorted : ∀ {κ : Type} [LinearOrder κ] (key : α → κ) (input : List α),
    ((tree input).evaluate (compareBy key)).Pairwise fun first second => key first ≤ key second

/-! ## Sorting by insertion -/

namespace Comparisons

variable {α κ : Type} [LinearOrder κ] {key : α → κ}

/-- Compare an element with those of a sorted list until its place is found. -/
def insertInto (element : α) : List α → (List α → Comparisons α) → Comparisons α
  | [], next => next [element]
  | first :: rest, next => .compare element first fun answer =>
    if answer = .gt then insertInto element rest fun inserted => next (first :: inserted)
    else next (element :: first :: rest)

def insertionSort : List α → (List α → Comparisons α) → Comparisons α
  | [], next => next []
  | first :: rest, next => insertionSort rest fun sorted => insertInto first sorted next

theorem evaluate_insertInto (element : α) (elements : List α) (next : List α → Comparisons α) :
    (insertInto element elements next).evaluate (compareBy key) =
      (next (elements.orderedInsert (fun first second => key first ≤ key second)
        element)).evaluate (compareBy key) := by
  induction elements generalizing next with
  | nil => rfl
  | cons first _ ih =>
    rw [insertInto, evaluate, List.orderedInsert_cons]
    by_cases before : key element ≤ key first
    · have answer : compareBy key element first ≠ .gt := by simp [compareBy, before]
      rw [if_neg answer, if_pos before]
    · have answer : compareBy key element first = .gt :=
        (cmp_eq_gt_iff _ _).mpr (not_le.mp before)
      rw [if_pos answer, if_neg before, ih]

theorem evaluate_insertionSort (elements : List α) (next : List α → Comparisons α) :
    (insertionSort elements next).evaluate (compareBy key) =
      (next (elements.insertionSort fun first second => key first ≤ key second)).evaluate
        (compareBy key) := by
  induction elements generalizing next with
  | nil => rfl
  | cons _ _ ih => rw [insertionSort, ih, evaluate_insertInto]; rfl

section Within

variable {inside : α → Prop} {elements : List α} {next : List α → Comparisons α}

omit [LinearOrder κ] in
theorem within_insertInto {element : α} (elementInside : inside element)
    (all : ∀ other ∈ elements, inside other)
    (rest : ∀ inserted, (∀ other ∈ inserted, inside other) → (next inserted).Within inside) :
    (insertInto element elements next).Within inside := by
  induction elements generalizing next with
  | nil => simp [insertInto, rest, elementInside]
  | cons first _ _ =>
    have firstInside := all first List.mem_cons_self
    refine .compare elementInside firstInside fun answer => ?_
    grind

omit [LinearOrder κ] in
theorem within_insertionSort (all : ∀ element ∈ elements, inside element)
    (rest : ∀ sorted, (∀ element ∈ sorted, inside element) → (next sorted).Within inside) :
    (insertionSort elements next).Within inside := by
  induction elements generalizing next with
  | nil => exact rest [] nofun
  | cons _ _ _ =>
    grind [insertionSort, within_insertInto]

end Within

end Comparisons

namespace ComparisonSort

variable {α : Type}

def insertion : ComparisonSort α where
  tree input := Comparisons.insertionSort input .done
  within input := Comparisons.within_insertionSort (fun _ mem => mem) fun _ _ => .done _
  perm key input := by
    rw [Comparisons.evaluate_insertionSort]
    exact List.perm_insertionSort _ input
  sorted key input := by
    rw [Comparisons.evaluate_insertionSort]
    exact List.pairwise_insertionSort _ input

end ComparisonSort

end ChromiumIos.Lib
