import ChromiumIos.WebStateList.Decomposition

/-!
# Insertions next to what an opener has opened

A WebState inserted with an opener goes behind the first contiguous run, after the opener, of
WebStates that were opened by it at its navigation index, or right behind the opener if there
is none.  Insertions that follow each other with one opener therefore stand together, in
their order, at the end of that run.
-/

namespace ChromiumIos.WebStateList

open Lib

/-! ## The first run of a list -/

/-- A list is cut around the first maximal run of elements with a property; without such an
element nothing stands before the run. -/
structure FirstRun {α : Type} (opened : α → Bool) (gap group rest : List α) : Prop where
  gapNone : ∀ value ∈ gap, opened value = false
  groupAll : ∀ value ∈ group, opened value = true
  restHead : ∀ value ∈ rest.head?, opened value = false
  absent : group = [] → gap = [] ∧ ∀ value ∈ rest, opened value = false

namespace FirstRun

variable {α : Type} {opened : α → Bool} {gap group rest : List α}

theorem exists_of_head (opened : α → Bool) (values : List α) :
    ∃ group rest, values = group ++ rest ∧ (∀ value ∈ group, opened value = true) ∧
      ∀ value ∈ rest.head?, opened value = false := by
  induction values with
  | nil => exact ⟨[], [], rfl, nofun, nofun⟩
  | cons value values _ =>
    cases matched : opened value with
    | false =>
      refine ⟨[], value :: values, rfl, nofun, fun head found => ?_⟩
      cases found
      exact matched
    | true =>
      grind

theorem exists_of (opened : α → Bool) (values : List α) :
    ∃ gap group rest, values = gap ++ group ++ rest ∧ FirstRun opened gap group rest := by
  induction values with
  | nil => exact ⟨[], [], [], rfl, nofun, nofun, nofun, fun _ => ⟨rfl, nofun⟩⟩
  | cons value values ih =>
    cases matched : opened value with
    | true =>
      obtain ⟨group, rest, split, groupAll, restHead⟩ :=
        exists_of_head opened (value :: values)
      refine ⟨[], group, rest, split, nofun, groupAll, restHead, ?_⟩
      grind
    | false =>
      obtain ⟨gap, group, rest, rfl, run⟩ := ih
      have skipped : ∀ {others : List α}, (∀ other ∈ others, opened other = false) →
          ∀ other ∈ value :: others, opened other = false := by
        simp [matched]
      cases group with
      | nil =>
        obtain ⟨rfl, none⟩ := run.absent rfl
        refine ⟨[], [], value :: rest, rfl, nofun, nofun, fun head found => ?_,
          fun _ => ⟨rfl, skipped none⟩⟩
        cases found
        exact matched
      | cons first group =>
        exact ⟨value :: gap, first :: group, rest, rfl, skipped run.gapNone, run.groupAll,
          run.restHead, nofun⟩

/-- A matching element put at the end of the run makes it longer. -/
theorem append {value : α} (run : FirstRun opened gap group rest) (matched : opened value) :
    FirstRun opened gap (group ++ [value]) rest := by
  refine ⟨run.gapNone, fun other mem => ?_, run.restHead,
    by simp⟩
  grind [run.groupAll]

end FirstRun

variable {W : Type} [DecidableEq W]
variable {list : WebStateList W} {notifications : List (Notification W)}
variable {opener : W} {current : Int}

/-! ## The search for the last WebState of a group -/

section Search

variable {opened : WebStateWrapper W → Bool} {gap group rest : List (WebStateWrapper W)}

omit [DecidableEq W] in
/-- Inside a run the search goes on to its end. -/
theorem nthOpenedByLoop_group {index : Int} {n : Nat}
    (groupAll : ∀ wrapper ∈ group, opened wrapper = true)
    (restHead : ∀ wrapper ∈ rest.head?, opened wrapper = false)
    (valid : 1 ≤ index) (enough : group.length ≤ n) :
    nthOpenedByLoop opened (group ++ rest) index n (index - 1) = index + group.length - 1 := by
  induction group generalizing index n with
  | nil =>
    have end_ : nthOpenedByLoop opened rest index n (index - 1) = index - 1 := by
      cases rest with
      | nil => rfl
      | cons wrapper _ =>
        cases n with
        | zero => rfl
        | succ _ =>
          have found : index - 1 ≠ kInvalidIndex := by
            simp only [kInvalidIndex]
            omega
          simp [nthOpenedByLoop, restHead wrapper rfl, if_pos found]
    simp [end_]
  | cons wrapper group ih =>
    rw [List.length_cons] at enough
    obtain ⟨n, rfl⟩ := Nat.exists_eq_succ_of_ne_zero (Nat.ne_of_gt (Nat.lt_of_lt_of_le
      (Nat.zero_lt_succ _) enough))
    have later : nthOpenedByLoop opened (group ++ rest) (index + 1) n (index + 1 - 1) =
        index + 1 + group.length - 1 :=
      ih (fun other mem => groupAll other (List.mem_cons_of_mem _ mem)) (by omega) (by omega)
    rw [Int.add_sub_cancel] at later
    rw [List.cons_append, nthOpenedByLoop, if_pos (groupAll wrapper List.mem_cons_self), later,
      List.length_cons]
    omega

omit [DecidableEq W] in
/-- Nothing is found in what stands before the run. -/
theorem nthOpenedByLoop_gap {later : List (WebStateWrapper W)} {index : Int} {n : Nat}
    (gapNone : ∀ wrapper ∈ gap, opened wrapper = false) :
    nthOpenedByLoop opened (gap ++ later) index (n + 1) kInvalidIndex =
      nthOpenedByLoop opened later (index + gap.length) (n + 1) kInvalidIndex := by
  induction gap generalizing index with
  | nil => simp
  | cons wrapper _ ih =>
    rw [List.cons_append, nthOpenedByLoop, gapNone wrapper List.mem_cons_self,
      if_neg Bool.false_ne_true, if_neg (not_not.mpr rfl),
      ih fun other mem => gapNone other (List.mem_cons_of_mem _ mem), List.length_cons]
    congr 1
    omega

omit [DecidableEq W] in
/-- The search for the last one of a group ends at the end of the first run. -/
theorem nthOpenedByLoop_firstRun {index : Int} {n : Nat}
    (run : FirstRun opened gap group rest) (valid : 0 ≤ index) (enough : group.length ≤ n + 1) :
    nthOpenedByLoop opened (gap ++ group ++ rest) index (n + 1) kInvalidIndex =
      if group = [] then kInvalidIndex else index + gap.length + group.length - 1 := by
  cases group with
  | nil =>
    obtain ⟨rfl, none⟩ := run.absent rfl
    have searched : nthOpenedByLoop opened (rest ++ []) index (n + 1) kInvalidIndex = _ :=
      nthOpenedByLoop_gap none
    simpa [nthOpenedByLoop] using searched
  | cons wrapper group =>
    rw [List.length_cons] at enough
    have inGroup : nthOpenedByLoop opened (group ++ rest) (index + gap.length + 1) n
        (index + gap.length + 1 - 1) = index + gap.length + 1 + group.length - 1 :=
      nthOpenedByLoop_group
        (fun other mem => run.groupAll other (List.mem_cons_of_mem _ mem)) run.restHead
        (by omega) (by omega)
    rw [Int.add_sub_cancel] at inGroup
    rw [if_neg (List.cons_ne_nil _ _), List.append_assoc, nthOpenedByLoop_gap run.gapNone,
      List.cons_append, nthOpenedByLoop, if_pos (run.groupAll wrapper List.mem_cons_self),
      inGroup, List.length_cons]
    omega

end Search

/-! ## Where an insertion goes -/

/-- The list around a WebState and the first run of those it opened at its navigation index. -/
structure GroupAt (list : WebStateList W) (opener : W) (current : Int)
    (before : List (WebStateWrapper W)) (wrapper : WebStateWrapper W)
    (gap group rest : List (WebStateWrapper W)) : Prop where
  wrappers : list.webStateWrappers = before ++ wrapper :: (gap ++ group ++ rest)
  webState : wrapper.webState = opener
  firstRun : FirstRun (fun other => other.wasOpenedBy opener current true) gap group rest

theorem exists_groupAt (current : Int) (member : opener ∈ list.webStates) :
    ∃ before wrapper gap group rest,
      GroupAt list opener current before wrapper gap group rest := by
  obtain ⟨wrapper, present, webState⟩ := List.mem_map.mp member
  obtain ⟨before, later, wrappers⟩ := List.append_of_mem present
  obtain ⟨gap, group, rest, rfl, run⟩ :=
    FirstRun.exists_of (fun other => other.wasOpenedBy opener current true) later
  exact ⟨before, wrapper, gap, group, rest, wrappers, webState, run⟩

section Place

variable {before gap group rest : List (WebStateWrapper W)} {wrapper : WebStateWrapper W}

namespace GroupAt

variable (place : GroupAt list opener current before wrapper gap group rest)
include place

theorem taken : at? list.webStateWrappers (before.length : Int) = some wrapper := by
  simp [place.wrappers]

theorem member : opener ∈ list.webStates := by
  rw [← place.webState]
  exact webState_mem place.taken

theorem count_eq : list.count = before.length + 1 + gap.length + group.length + rest.length := by
  grind [count, place.wrappers]

theorem getIndexOfWebState_eq (nodup : list.webStates.Nodup) :
    list.getIndexOfWebState (some opener) = before.length := by
  have found := at?_webStates_of_taken place.taken
  rw [place.webState] at found
  exact at?_inj nodup (at?_getIndexOfWebState place.member) found

/-- The last WebState of the group, if there is one. -/
theorem getIndexOfLastWebStateOpenedBy_eq {lastCommitted : W → Int}
    (unmoved : lastCommitted opener = current) (representable : list.count ≤ intMax) :
    list.getIndexOfLastWebStateOpenedBy lastCommitted (some opener) before.length true =
      if group = [] then kInvalidIndex else before.length + gap.length + group.length := by
  have count_eq := place.count_eq
  have searched : ¬ (¬ list.ContainsIndex before.length ∨ (before.length : Int) = intMax) := by
    grind [ContainsIndex]
  have later : list.webStateWrappers.drop (before.length + 1) = gap ++ group ++ rest := by
    rw [place.wrappers, List.append_cons]
    simp
  have loop : nthOpenedByLoop (fun other => other.wasOpenedBy opener current true)
      (gap ++ group ++ rest) (before.length + 1) intMax.toNat kInvalidIndex = _ :=
    nthOpenedByLoop_firstRun place.firstRun (by omega) (by unfold intMax at representable; omega)
  unfold getIndexOfLastWebStateOpenedBy getIndexOfNthWebStateOpenedBy
  grind

theorem determineInsertionIndex_eq {lastCommitted : W → Int}
    (unmoved : lastCommitted opener = current) (nodup : list.webStates.Nodup)
    (room : list.count < intMax) :
    list.determineInsertionIndex lastCommitted (some opener) =
      some (before.length + 1 + gap.length + group.length : Int) := by
  have count_eq := place.count_eq
  have valid : (before.length : Int) ≠ kInvalidIndex := by
    simp only [kInvalidIndex]
    omega
  unfold determineInsertionIndex
  dsimp only
  rw [place.getIndexOfWebState_eq nodup, dcheck_of valid,
    place.getIndexOfLastWebStateOpenedBy_eq unmoved (Int.le_of_lt room)]
  simp only [Option.bind_eq_bind, Option.bind_some]
  by_cases alone : group = []
  · obtain ⟨rfl, -⟩ := place.firstRun.absent alone
    subst alone
    rw [if_pos rfl, if_neg (not_not.mpr rfl), dcheck_of (by omega)]
    simp
  · have found : (before.length + gap.length + group.length : Int) ≠ kInvalidIndex := by
      simp only [kInvalidIndex]
      omega
    rw [if_neg alone, if_pos found, dcheck_of (by omega)]
    grind

/-- The wrappers once one is put at the end of the group. -/
theorem insertAt_eq (new : WebStateWrapper W) :
    insertAt list.webStateWrappers (before.length + 1 + gap.length + group.length : Int) new =
      before ++ wrapper :: (gap ++ (group ++ [new]) ++ rest) := by
  have split : list.webStateWrappers = (before ++ wrapper :: (gap ++ group)) ++ rest := by
    simp [place.wrappers]
  have position : (before.length + 1 + gap.length + group.length : Int) =
      (before ++ wrapper :: (gap ++ group)).length := by
    grind
  rw [position, split, insertAt_length]
  simp

/-- The new WebState is the last one of the group then. -/
theorem insert {after : WebStateList W} {webState : W}
    (wrappers : after.webStateWrappers = insertAt list.webStateWrappers
      (before.length + 1 + gap.length + group.length : Int) ⟨webState, ⟨some opener, current⟩⟩) :
    GroupAt after opener current before wrapper gap
      (group ++ [⟨webState, ⟨some opener, current⟩⟩]) rest := by
  refine ⟨?_, place.webState, place.firstRun.append ?_⟩
  · rw [wrappers, place.insertAt_eq]
  · simp [WebStateWrapper.wasOpenedBy]

end GroupAt

end Place

/-! ## Insertions one after the other -/

/-- The arguments of an insertion but its opener, and the navigation indices it reads. -/
structure Insertion (W : Type) where
  lastCommitted : W → Int
  index : Int
  webState : W
  flags : Flags

def insertAllOpenedBy (opener : W) :
    List (Insertion W) → WebStateList W → Checked (WebStateList W)
  | [], list => some list
  | insertion :: rest, list => do
      let (after, _) ← list.insertWebState insertion.lastCommitted insertion.index
        insertion.webState insertion.flags (.ofWebState insertion.lastCommitted (some opener))
      insertAllOpenedBy opener rest after

def Insertion.wrapper (opener : W) (current : Int) (insertion : Insertion W) :
    WebStateWrapper W :=
  ⟨insertion.webState, ⟨some opener, current⟩⟩

/-- The order controller chooses the place of each of the insertions, the opener is the one
passed and stays where it is in its history, and the WebStates are new and few enough. -/
structure Insertable (list : WebStateList W) (opener : W) (current : Int)
    (insertions : List (Insertion W)) : Prop where
  unforced : ∀ insertion ∈ insertions, ¬ isFlagSet insertion.flags insertForceIndex
  explicit : ∀ insertion ∈ insertions, ¬ isFlagSet insertion.flags insertInheritOpener
  unmoved : ∀ insertion ∈ insertions, insertion.lastCommitted opener = current
  fresh : ∀ insertion ∈ insertions, insertion.webState ∉ list.webStates
  nodup : (insertions.map Insertion.webState).Nodup
  room : list.count + insertions.length ≤ intMax

theorem insertWebState_groupAt {insertion : Insertion W} {rest : List (Insertion W)}
    {before gap group others : List (WebStateWrapper W)} {wrapper : WebStateWrapper W}
    (wf : list.WellFormed) (place : GroupAt list opener current before wrapper gap group others)
    (insertable : Insertable list opener current (insertion :: rest)) :
    ∃ after notifications,
      list.insertWebState insertion.lastCommitted insertion.index insertion.webState
        insertion.flags (.ofWebState insertion.lastCommitted (some opener)) =
          some (after, notifications) ∧
      after.WellFormed ∧ Insertable after opener current rest ∧
      GroupAt after opener current before wrapper gap
        (group ++ [insertion.wrapper opener current]) others := by
  have member := place.member
  have unmoved := insertable.unmoved insertion List.mem_cons_self
  have fresh := insertable.fresh insertion List.mem_cons_self
  have room : list.count < intMax := by
    grind [insertable.room]
  have inside : (before.length + 1 + gap.length + group.length : Int) ≤ list.count := by
    have count_eq := place.count_eq
    omega
  have record_eq : WebStateOpener.ofWebState insertion.lastCommitted (some opener) =
      ⟨some opener, current⟩ := congrArg (WebStateOpener.mk (some opener)) unmoved
  have openerRead : list.insertionOpener insertion.lastCommitted insertion.flags
      ⟨some opener, current⟩ = some ⟨some opener, current⟩ :=
    if_neg (insertable.explicit insertion List.mem_cons_self)
  have openerKnown : ∀ opening ∈ (⟨some opener, current⟩ : WebStateOpener W).opener,
      opening ∈ list.webStates := by
    rintro opening ⟨⟩
    exact member
  have indexRead : list.insertionIndex insertion.lastCommitted insertion.index insertion.flags
      ⟨some opener, current⟩ = some (before.length + 1 + gap.length + group.length : Int) := by
    unfold insertionIndex
    rw [if_neg (insertable.unforced insertion List.mem_cons_self),
      place.determineInsertionIndex_eq unmoved wf.nodup room, Option.map_some, if_neg (by omega)]
  obtain ⟨known, inserted⟩ := insertWebState_eq wf fresh room openerRead openerKnown indexRead
    (by omega) inside rfl
  have wrappers : ∀ {after : WebStateList W} {notifications : List (Notification W)},
      list.insertWebState insertion.lastCommitted insertion.index insertion.webState
        insertion.flags ⟨some opener, current⟩ = some (after, notifications) →
      after.webStateWrappers = insertAt list.webStateWrappers
        (before.length + 1 + gap.length + group.length : Int)
        (insertion.wrapper opener current) := by
    intro after notifications returned
    rw [inserted, Option.some.injEq] at returned
    split at returned <;> cases returned <;> rfl
  obtain ⟨⟨after, notifications⟩, returned⟩ : ∃ outcome, list.insertWebState
      insertion.lastCommitted insertion.index insertion.webState insertion.flags
      ⟨some opener, current⟩ = some outcome := ⟨_, inserted⟩
  have afterWrappers := wrappers returned
  have states : after.webStates = insertAt list.webStates
      (before.length + 1 + gap.length + group.length : Int) insertion.webState := by
    unfold webStates
    rw [afterWrappers, map_insertAt]
    rfl
  have admissible : list.Admissible ⟨insertion.lastCommitted, .insertWebState insertion.index
      insertion.webState insertion.flags ⟨some opener, current⟩⟩ :=
    by simp [Admissible, fresh, room, insertable.unforced, openerKnown]
  rw [record_eq]
  refine ⟨after, notifications, returned, step_wellFormed wf admissible returned, ?_,
    place.insert afterWrappers⟩
  have later : ∀ other ∈ rest, other ∈ insertion :: rest := fun _ => List.mem_cons_of_mem _
  have nodup := insertable.nodup
  rw [List.map_cons, List.nodup_cons] at nodup
  refine ⟨fun other mem => insertable.unforced other (later other mem),
    fun other mem => insertable.explicit other (later other mem),
    fun other mem => insertable.unmoved other (later other mem), fun other mem => ?_, nodup.2, ?_⟩
  · grind [mem_insertAt, length_webStates, insertable.fresh]
  · have all := insertable.room
    have length := length_insertAt (insertion.wrapper opener current) (by omega) inside
    grind [count]

/-- The WebStates inserted stand at the end of the group, in their order. -/
theorem insertAllOpenedBy_groupAt {insertions : List (Insertion W)}
    {before gap group rest : List (WebStateWrapper W)} {wrapper : WebStateWrapper W}
    (wf : list.WellFormed) (place : GroupAt list opener current before wrapper gap group rest)
    (insertable : Insertable list opener current insertions) :
    ∃ after, insertAllOpenedBy opener insertions list = some after ∧
      after.webStateWrappers = before ++ wrapper :: (gap ++
        (group ++ insertions.map (Insertion.wrapper opener current)) ++ rest) := by
  induction insertions generalizing list group with
  | nil =>
    simpa [insertAllOpenedBy] using place.wrappers
  | cons _ _ ih =>
    obtain ⟨_, _, inserted, middleWf, remaining, grown⟩ :=
      insertWebState_groupAt wf place insertable
    obtain ⟨_, returned, wrappers⟩ := ih middleWf grown remaining
    simp [insertAllOpenedBy, inserted, returned, wrappers]

/--
WebStates inserted one after the other with an opener of a reachable list stand together in
the order of their insertion.  They are directly behind the first contiguous run of WebStates,
among those after the opener, that it opened at its navigation index, or directly behind the
opener if it has opened none there; and the other WebStates keep their order.
-/
theorem insertAllOpenedBy_spec {insertions : List (Insertion W)}
    (run : Run notifications list) (member : opener ∈ list.webStates)
    (insertable : Insertable list opener current insertions) :
    ∃ before wrapper gap group rest after,
      GroupAt list opener current before wrapper gap group rest ∧
      insertAllOpenedBy opener insertions list = some after ∧
      after.webStateWrappers = before ++ wrapper :: (gap ++
        (group ++ insertions.map (Insertion.wrapper opener current)) ++ rest) ∧
      list.webStateWrappers.Sublist after.webStateWrappers := by
  obtain ⟨before, wrapper, gap, group, rest, place⟩ := exists_groupAt current member
  obtain ⟨after, returned, wrappers⟩ :=
    insertAllOpenedBy_groupAt (Run.wellFormed run) place insertable
  refine ⟨before, wrapper, gap, group, rest, after, place, returned, wrappers, ?_⟩
  simp [place.wrappers, wrappers]

/-- A WebState with one it opened earlier, a group of two, another WebState and a third one
it opened. -/
def interruptedGroup : List (Input Nat) :=
  [⟨fun _ => 0, .insertWebState 0 1 insertActivate .null⟩,
    ⟨fun _ => 0, .insertWebState 1 2 insertForceIndex ⟨some 1, 4⟩⟩,
    ⟨fun _ => 0, .insertWebState 2 3 insertForceIndex ⟨some 1, 0⟩⟩,
    ⟨fun _ => 0, .insertWebState 3 4 insertForceIndex ⟨some 1, 0⟩⟩,
    ⟨fun _ => 0, .insertWebState 4 5 insertForceIndex .null⟩,
    ⟨fun _ => 0, .insertWebState 5 6 insertForceIndex ⟨some 1, 0⟩⟩]

theorem insertAllOpenedBy_spec_interruptedGroup :
    ∃ notifications, ∃ list : WebStateList Nat, Run notifications list ∧
      list.webStates = [1, 2, 3, 4, 5, 6] ∧
      ∃ after, insertAllOpenedBy 1 [⟨fun _ => 0, 0, 7, 0⟩, ⟨fun _ => 0, 0, 8, insertActivate⟩]
          list = some after ∧
        after.webStates = [1, 2, 3, 4, 7, 8, 5, 6] ∧
        list.webStateWrappers.Sublist after.webStateWrappers := by
  have run : Run _ _ :=
    Runs.replay interruptedGroup .start (Option.eq_some_of_isSome (by decide))
  obtain ⟨-, -, -, -, -, after, -, returned, -, kept⟩ :=
    insertAllOpenedBy_spec run (by decide)
      (⟨by decide, by decide, by decide, by decide, by decide, by decide⟩ :
        Insertable _ 1 0 [⟨fun _ => 0, 0, 7, 0⟩, ⟨fun _ => 0, 0, 8, insertActivate⟩])
  refine ⟨_, _, run, by decide, after, returned, ?_, kept⟩
  have computed := congrArg (Option.map webStates) returned
  exact Option.some.inj (computed.symm.trans (by decide))

/-- The first WebState of two is active, and a third one is inserted with the second one as
its opener but with the flag that has it inherit the active one. -/
theorem insertAllOpenedBy_inherited :
    ∃ notifications, ∃ list : WebStateList Nat, Run notifications list ∧
      list.webStates = [1, 2] ∧
      ¬ isFlagSet insertInheritOpener insertForceIndex ∧
      ∃ after, insertAllOpenedBy 2 [⟨fun _ => 0, 0, 3, insertInheritOpener⟩] list = some after ∧
        after.webStates = [1, 3, 2] := by
  have run : Run _ _ :=
    Runs.replay [⟨fun _ => 0, .insertWebState 0 1 insertActivate .null⟩,
      ⟨fun _ => 0, .insertWebState 1 2 insertForceIndex .null⟩] .start
      (Option.eq_some_of_isSome (by decide))
  exact ⟨_, _, run, by decide, by decide, _, Option.eq_some_of_isSome (by decide), by decide⟩

end ChromiumIos.WebStateList
