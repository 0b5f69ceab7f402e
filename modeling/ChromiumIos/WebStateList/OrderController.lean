import ChromiumIos.WebStateList.Decomposition

/-!
# The choice of the new active WebState

The searches of the order controller are compared with what they look for: the
first WebState after an index that was opened by a given one.  From this the
index chosen on a removal is bounded, and an admissible step of a list without
a WebState that is its own opener always returns.
-/

namespace ChromiumIos.WebStateList

open Lib

variable {W : Type} [DecidableEq W]
variable {list after : WebStateList W} {notifications : List (Notification W)}

def nextOpenedBy (list : WebStateList W) (index : Int) (opener : W) :
    Option (WebStateWrapper W) :=
  (list.webStateWrappers.drop (index + 1).toNat).find?
    (fun wrapper => wrapper.wasOpenedBy opener (-1) false)

omit [DecidableEq W] in
/-- The loop that wants one match stops at the first one. -/
theorem nthOpenedByLoop_one (opened : WebStateWrapper W → Bool)
    (wrappers : List (WebStateWrapper W)) (index : Int) :
    (wrappers.find? opened = none ∧
      nthOpenedByLoop opened wrappers index 1 kInvalidIndex = kInvalidIndex) ∨
    ∃ child, ∃ offset : Nat, wrappers.find? opened = some child ∧
      wrappers[offset]? = some child ∧
      nthOpenedByLoop opened wrappers index 1 kInvalidIndex = index + offset := by
  induction wrappers generalizing index with
  | nil => exact .inl ⟨rfl, rfl⟩
  | cons wrapper rest ih =>
    simp only [nthOpenedByLoop]
    cases match_ : opened wrapper with
    | true =>
      refine .inr ⟨wrapper, 0, List.find?_cons_of_pos match_, rfl, ?_⟩
      cases rest <;> simp [nthOpenedByLoop]
    | false =>
      have skipped : (wrapper :: rest).find? opened = rest.find? opened :=
        List.find?_cons_of_neg (by simp [match_])
      rw [skipped, if_neg (by simp), if_neg (by simp)]
      rcases ih (index + 1) with ⟨absent, invalid⟩ | ⟨child, offset, found, at_, result⟩
      · exact .inl ⟨absent, invalid⟩
      · refine .inr ⟨child, offset + 1, found, at_, ?_⟩
        rw [result]
        omega

variable {index position : Int}
variable {opener : W} (lastCommitted : W → Int)

/-- The search for the next opened WebState finds the first one or nothing. -/
theorem getIndexOfNextWebStateOpenedBy_spec (representable : list.count ≤ intMax)
    (inside : list.ContainsIndex index) (opener : W) :
    (list.nextOpenedBy index opener = none ∧
      list.getIndexOfNextWebStateOpenedBy lastCommitted (some opener) index false =
        kInvalidIndex) ∨
    ∃ child position, list.nextOpenedBy index opener = some child ∧
      at? list.webStateWrappers position = some child ∧ index < position ∧
      list.getIndexOfNextWebStateOpenedBy lastCommitted (some opener) index false = position := by
  have searched : ¬ (¬ list.ContainsIndex index ∨ index = intMax) := by
    grind [ContainsIndex]
  have loop := nthOpenedByLoop_one
    (fun wrapper => WebStateWrapper.wasOpenedBy wrapper opener (-1) false)
    (list.webStateWrappers.drop (index + 1).toNat) (index + 1)
  have result : list.getIndexOfNextWebStateOpenedBy lastCommitted (some opener) index false =
      nthOpenedByLoop (fun wrapper => WebStateWrapper.wasOpenedBy wrapper opener (-1) false)
        (list.webStateWrappers.drop (index + 1).toNat) (index + 1) 1 kInvalidIndex := by
    simp [getIndexOfNextWebStateOpenedBy, getIndexOfNthWebStateOpenedBy, if_neg searched]
  rw [result]
  rcases loop with none | ⟨child, offset, found, at_, position⟩
  · exact .inl none
  · refine .inr ⟨child, index + 1 + offset, found, ?_, by omega, position⟩
    have nonneg := inside.1
    grind [at?_of_nonneg]

theorem getIndexOfWebState_of_at? {webState : W} (nodup : list.webStates.Nodup)
    (found : at? list.webStates position = some webState) :
    list.getIndexOfWebState (some webState) = position :=
  at?_inj nodup (at?_getIndexOfWebState (mem_of_at? found)) found

/-- The first WebState opened after `index` stands after `index`, and the search finds it. -/
theorem nextOpenedBy_eq_some {child : WebStateWrapper W} (wf : list.WellFormed)
    (inside : list.ContainsIndex index) (next : list.nextOpenedBy index opener = some child)
    (lastCommitted : W → Int) :
    child.webState ∈ list.webStates ∧ index < list.getIndexOfWebState (some child.webState) ∧
      list.getIndexOfNextWebStateOpenedBy lastCommitted (some opener) index false =
        list.getIndexOfWebState (some child.webState) := by
  rcases getIndexOfNextWebStateOpenedBy_spec lastCommitted wf.representable inside
    opener with ⟨absent, _⟩ | ⟨_, position, found, taken, later, result⟩
  · rw [absent] at next
    cases next
  · have takenState := at?_webStates_of_taken taken
    grind [getIndexOfWebState_of_at?, mem_of_at?, wf.nodup]

theorem nextOpenedBy_eq_none (wf : list.WellFormed) (inside : list.ContainsIndex index)
    (next : list.nextOpenedBy index opener = none) (lastCommitted : W → Int) :
    list.getIndexOfNextWebStateOpenedBy lastCommitted (some opener) index false =
      kInvalidIndex := by
  grind [getIndexOfNextWebStateOpenedBy_spec, wf.representable]

/-! ## What the order controller looks for -/

/--
The WebState related to the one at `index` that is to be active once that one
is removed: the first one that it opened, else the next one opened by its own
opener, else the opener.
-/
def relativeToActivate (list : WebStateList W) (index : Int) : Option W :=
  (at? list.webStateWrappers index).bind fun removed =>
    match list.nextOpenedBy index removed.webState with
    | some child => some child.webState
    | none => removed.opener.opener.map fun opening =>
      match list.nextOpenedBy index opening with
      | some sibling => sibling.webState
      | none => opening

/-- Without a relative, the next WebState is to be active, or else the one before. -/
def neighbourToActivate (list : WebStateList W) (index : Int) : Option W :=
  (at? list.webStates (index + 1)).or (at? list.webStates (index - 1))

def webStateToActivate (list : WebStateList W) (index : Int) : Option W :=
  (list.relativeToActivate index).or (list.neighbourToActivate index)

/-- A relative is a WebState of the list, and another one unless the removed
WebState is its own opener. -/
theorem relativeToActivate_spec {relative : W} (wf : list.WellFormed)
    (related : list.relativeToActivate index = some relative) :
    relative ∈ list.webStates ∧
      (list.NoOwnOpener → list.getIndexOfWebState (some relative) ≠ index) := by
  obtain ⟨wrapper, taken, related⟩ := Option.bind_eq_some_iff.mp related
  have inside := (containsIndex_iff list index).mpr ⟨wrapper, taken⟩
  split at related
  · rename_i child next
    cases related
    obtain ⟨member, later, _⟩ := nextOpenedBy_eq_some wf inside next (fun _ => 0)
    grind
  · obtain ⟨opening, recorded, related⟩ := Option.map_eq_some_iff.mp related
    split at related
    · rename_i sibling next
      cases related
      obtain ⟨member, later, _⟩ := nextOpenedBy_eq_some wf inside next (fun _ => 0)
      grind
    · cases related
      have member := wf.known wrapper (mem_of_at? taken) relative recorded
      refine ⟨member, fun proper same => ?_⟩
      have found := at?_getIndexOfWebState member
      rw [same, at?_webStates, taken, Option.map_some] at found
      exact proper wrapper (mem_of_at? taken) (recorded.trans found.symm)

/-- An index that a search found is not the invalid one. -/
theorem ne_kInvalidIndex (nonneg : 0 ≤ index) (later : index < position) :
    position ≠ kInvalidIndex := by
  simp only [kInvalidIndex]
  omega

/--
The index chosen on a removal is that of the relative, corrected for the
removal, or that of a neighbour.
-/
theorem determineNewActiveIndex_eq (wf : list.WellFormed) (inside : list.ContainsIndex index) :
    list.determineNewActiveIndex lastCommitted index = some
      (match list.relativeToActivate index with
        | some relative => getValidIndex (list.getIndexOfWebState (some relative)) index
        | none =>
          if list.count = 1 then kInvalidIndex
          else if index ≥ list.count - 1 then index - 1 else index) := by
  obtain ⟨wrapper, taken⟩ := (containsIndex_iff list index).mp inside
  simp only [determineNewActiveIndex, getWebStateAt, getOpenerOfWebStateAt, relativeToActivate]
  rw [dcheck_of inside, taken]
  simp only [Option.bind_eq_bind, Option.bind_some, Option.map_some]
  cases next : list.nextOpenedBy index wrapper.webState with
  | some _ =>
    obtain ⟨_, later, found⟩ := nextOpenedBy_eq_some wf inside next lastCommitted
    simp [found, ne_kInvalidIndex inside.1 later]
  | none =>
    rw [nextOpenedBy_eq_none wf inside next lastCommitted, if_neg (not_not.mpr rfl)]
    cases recorded : wrapper.opener.opener with
    | none =>
      grind
    | some opening =>
      cases next : list.nextOpenedBy index opening with
      | some _ =>
        obtain ⟨_, later, found⟩ := nextOpenedBy_eq_some wf inside next lastCommitted
        simp [found, next, ne_kInvalidIndex inside.1 later]
      | none => simp [nextOpenedBy_eq_none wf inside next lastCommitted, next]

omit [DecidableEq W] in
/-- The correction stays inside the list that is left, unless it is for the removed index. -/
theorem getValidIndex_inRange (inside : list.ContainsIndex index)
    (positionInside : list.ContainsIndex position) (other : position ≠ index) :
    0 ≤ getValidIndex position index ∧ getValidIndex position index < list.count - 1 := by
  simp only [getValidIndex, ContainsIndex] at *
  split <;> omega

/-- Without a WebState that is its own opener, the choice is inside the list that is left. -/
theorem determineNewActiveIndex_inRange {lastCommitted : W → Int} {newActiveIndex : Int}
    (wf : list.WellFormed) (proper : list.NoOwnOpener) (inside : list.ContainsIndex index)
    (determined : list.determineNewActiveIndex lastCommitted index = some newActiveIndex) :
    newActiveIndex = kInvalidIndex ∨ 0 ≤ newActiveIndex ∧ newActiveIndex < list.count - 1 := by
  rw [determineNewActiveIndex_eq lastCommitted wf inside, Option.some.injEq] at determined
  subst determined
  cases related : list.relativeToActivate index with
  | some relative =>
    obtain ⟨member, other⟩ := relativeToActivate_spec wf related
    exact .inr (getValidIndex_inRange inside
      ((containsIndex_getIndexOfWebState_iff list relative).mpr member) (other proper))
  | none =>
    have nonneg : 0 ≤ index := inside.1
    have bound : index < list.count := inside.2
    grind

theorem detachWebStateAt_isSome (wf : list.WellFormed) (proper : list.NoOwnOpener)
    (inside : list.ContainsIndex index) :
    ∃ result, list.detachWebStateAt lastCommitted index = some result := by
  obtain ⟨wrapper, taken⟩ := (containsIndex_iff list index).mp inside
  by_cases active : list.activeIndex = index
  · subst active
    obtain ⟨newActiveIndex, determined⟩ := determineNewActiveIndex_isSome lastCommitted taken
    refine ⟨_, (detachWebStateAt_active_iff lastCommitted wf taken determined).mpr
      ⟨?_, rfl, rfl, rfl⟩⟩
    have length : (eraseAt (list.clearOpenersReferencing wrapper.webState)
        list.activeIndex).length = _ :=
      length_eraseAt inside.1 (by simpa [count] using inside.2)
    rw [length_clearOpenersReferencing] at length
    obtain invalid | valid := determineNewActiveIndex_inRange wf proper inside determined
    · exact .inl invalid
    · right
      simp only [ContainsIndex, count] at *
      simp only [length]
      omega
  · exact ⟨_, detachWebStateAt_inactive lastCommitted taken active⟩

/-! ## No WebState becomes its own opener -/

theorem noOwnOpener_clearOpenersReferencing (proper : list.NoOwnOpener) (webState : W) :
    ∀ wrapper ∈ list.clearOpenersReferencing webState,
      wrapper.opener.opener ≠ some wrapper.webState := by
  intro wrapper included own
  obtain ⟨before, present, rfl⟩ := List.mem_map.mp included
  rw [clearOpener_webState] at own
  exact proper before present (clearOpener_opener_of_mem own).1

/-- Effects that record no WebState as its own opener keep the openers proper. -/
theorem Effect.noOwnOpener {OwnOpener : Prop} (never : ¬ OwnOpener) (proper : list.NoOwnOpener)
    (effect : Effect OwnOpener list notifications after) : after.NoOwnOpener := by
  cases effect with
  | insert _ nonneg inside _ fresh known =>
    intro wrapper included
    rcases (mem_insertAt nonneg inside).mp included with rfl | old
    · exact fun own => fresh (known _ own)
    · exact proper wrapper old
  | move taken inside =>
    intro wrapper included
    exact proper wrapper ((move_perm taken inside.1 inside.2).mem_iff.mp included)
  | replace _ _ =>
    intro wrapper included
    rcases mem_or_eq_of_mem_setAt included with old | rfl
    · exact noOwnOpener_clearOpenersReferencing proper _ wrapper old
    · exact Option.some_ne_none _ |>.symm
  | detachInactive _ _ =>
    intro wrapper included
    exact noOwnOpener_clearOpenersReferencing proper _ wrapper (mem_of_mem_eraseAt included)
  | detachActive _ _ _ =>
    intro wrapper included
    grind [noOwnOpener_clearOpenersReferencing, mem_of_mem_eraseAt]
  | close | activate inside => exact proper
  | setOpener _ _ _ =>
    grind [NoOwnOpener, withOpener, mem_or_eq_of_mem_setAt]

theorem step_noOwnOpener {input : Input W} (wf : list.WellFormed) (proper : list.NoOwnOpener)
    (admissible : list.Admissible input) (other : ¬ list.MakesOwnOpener input)
    (stepped : list.step input = some (after, notifications)) : after.NoOwnOpener :=
  (step_chain wf admissible stepped).invariant proper (Effect.noOwnOpener other)

end ChromiumIos.WebStateList
