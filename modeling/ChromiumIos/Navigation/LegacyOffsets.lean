import ChromiumIos.Lib.Chains
import ChromiumIos.Navigation.SessionRestoration

/-!
# Offsets in the legacy navigation manager

A redirect is kept in the history after the item that was redirected.  The lists
of items before and after the current one leave out what a user did not choose:
going back, the items in front of redirects are wanted no more, and going
forward, a chain of redirects is listed by its head.  The offsets step over the
same chains with loops of their own, back to the item before a chain and forward
to the end of one.
-/

namespace ChromiumIos

open Lib

namespace PageTransition

def isRedirectMask : PageTransition := 0xc0000000#32

def isRedirect (transition : PageTransition) : Bool := transition &&& isRedirectMask != 0

end PageTransition

namespace SessionController

def intMax : Int := 2 ^ 31 - 1
def intMin : Int := -2 ^ 31

variable (env : NavigationEnvironment) (controller : SessionController)

/-! ## The lists -/

def isRedirectTransitionForItemAtIndex (index : Nat) : Checked Bool := do
  let item ← controller.items[index]?
  return item.transitionType.isRedirect

def backwardLoop : Nat → Checked (List NavigationItem)
  | 0 => return []
  | index + 1 => do
      if ← controller.isRedirectTransitionForItemAtIndex (index + 1) then
        backwardLoop index
      else
        let item ← controller.items[index]?
        let rest ← backwardLoop index
        return item :: rest

def backwardItems : Checked (List NavigationItem) := do
  if controller.lastCommittedItemIndex > -1 then
    let lastCommittedItem ← ← controller.lastCommittedItem
    let items ← controller.backwardLoop controller.lastCommittedItemIndex.toNat
    return if controller.transientItem.isSome then lastCommittedItem :: items else items
  else
    return []

def forwardItems : List NavigationItem :=
  (controller.items.drop (controller.lastCommittedItemIndex + 1).toNat).filter fun item =>
    !item.transitionType.isRedirect

/-! ## The offsets -/

def getItemCount : Int := narrowToInt controller.items.length

def skipRedirectsBack : Nat → Checked Nat
  | 0 => return 0
  | result + 1 => do
      let item ← controller.items[result + 1]?
      if item.transitionType.isRedirect then skipRedirectsBack result else return result + 1

def goBackLoop : Nat → Int → Checked (Nat × Int)
  | 0, result => return (0, result)
  | steps + 1, result => do
      if result > 0 then
        let skipped ← controller.skipRedirectsBack result.toNat
        goBackLoop steps (skipped - 1)
      else
        return (steps + 1, result)

/-- Going forward, the loop over the items after the index that are redirects. -/
def skipRedirects : List NavigationItem → Int → Int
  | [], result => result
  | item :: rest, result =>
    if item.transitionType.isRedirect then skipRedirects rest (result + 1) else result

def goForwardLoop : Nat → Int → Nat × Int
  | 0, result => (0, result)
  | steps + 1, result =>
    if result < controller.getItemCount then
      goForwardLoop steps
        (skipRedirects (controller.items.drop (result + 2).toNat) (result + 1))
    else
      (steps + 1, result)

def getIndexForOffset (offset : Int) : Checked Int := do
  let result ←
    if controller.pendingItemIndex = -1 then controller.getLastCommittedItemIndex env
    else pure (narrowToInt controller.pendingItemIndex)
  if offset < 0 then
    let offset :=
      if controller.transientItem.isSome ∧ controller.pendingItemIndex = -1 then offset + 1
      else offset
    let (steps, result) ← controller.goBackLoop (-offset).toNat result
    let result := narrowToInt (result - steps)
    return if result > controller.getItemCount then intMin else result
  else if offset > 0 then
    let (steps, result) := controller.goForwardLoop offset.toNat result
    let result := narrowToInt (result + steps)
    return if result < 0 then intMax else result
  else
    return result

def canGoToOffset (offset : Int) : Checked Bool := do
  let index ← controller.getIndexForOffset env offset
  return 0 ≤ index ∧ index < controller.getItemCount

/-! ## Where the loops stop -/

variable {env controller}

def redirects (item : NavigationItem) : Bool := item.transitionType.isRedirect

theorem skipRedirects_eq (rest : List NavigationItem) (position : Nat) :
    skipRedirects rest position = (chainEnd redirects rest position : Nat) := by
  induction rest generalizing position with
  | nil => rfl
  | cons _ _ _ =>
    grind [skipRedirects, chainEnd, redirects]

def endOfChain (controller : SessionController) (position : Nat) : Nat :=
  chainEnd redirects (controller.items.drop (position + 1)) position

def forwardStops (controller : SessionController) (position : Nat) : List Nat :=
  stopsFrom redirects controller.items position

variable {position : Nat}
variable {value : Int} (steps : Nat)

theorem goForwardLoop_step (counted : controller.getItemCount = controller.items.length)
    (steps : Nat) (inside : position ≤ controller.items.length) :
    controller.goForwardLoop (steps + 1) (position - 1) =
      controller.goForwardLoop steps (controller.endOfChain position) := by
  have after : ((position : Int) - 1 + 2).toNat = position + 1 := by omega
  have here : (position : Int) - 1 + 1 = position := by omega
  rw [goForwardLoop, if_pos (by rw [counted]; omega), after, here, skipRedirects_eq]
  rfl

/-- Up to the last stop the steps forward lead to the ends of the chains, and more steps
lead out of the history. -/
theorem goForwardLoop_spec (counted : controller.getItemCount = controller.items.length)
    (steps : Nat) (inside : position ≤ controller.items.length) :
    (∀ stop, (controller.forwardStops position)[steps]? = some stop →
      controller.goForwardLoop (steps + 1) (position - 1) =
        (0, (controller.endOfChain stop : Int))) ∧
    ((controller.forwardStops position).length ≤ steps →
      ∃ left : Nat, left ≤ steps ∧ controller.goForwardLoop (steps + 1) (position - 1) =
        (left, (controller.items.length : Int))) := by
  induction steps generalizing position with
  | zero =>
    rw [goForwardLoop_step counted 0 inside]
    rcases Nat.lt_or_eq_of_le inside with before | last
    · have stops : controller.forwardStops position = position :: _ := stopsFrom_cons before
      rw [stops]
      simp [goForwardLoop]
    · subst last
      have stops : controller.forwardStops controller.items.length = [] :=
        stopsFrom_of_le (Nat.le_refl _)
      rw [stops]
      refine ⟨fun stop here => ?_, fun _ => ⟨0, Nat.le_refl _, ?_⟩⟩
      · cases here
      · unfold endOfChain
        rw [List.drop_eq_nil_of_le (Nat.le_succ _)]
        rfl
  | succ _ _ =>
    rw [goForwardLoop_step counted _ inside]
    rcases Nat.lt_or_eq_of_le inside with before | last
    · have stops : controller.forwardStops position =
          position :: controller.forwardStops (controller.endOfChain position + 1) :=
        stopsFrom_cons before
      have chain : EndsChain redirects controller.items position
          (controller.endOfChain position) := (chainEnd_spec rfl before).1
      grind [chain.inside]
    · subst last
      have stops : controller.forwardStops controller.items.length = [] :=
        stopsFrom_of_le (Nat.le_refl _)
      have ends : controller.endOfChain controller.items.length = controller.items.length := by
        unfold endOfChain
        rw [List.drop_eq_nil_of_le (Nat.le_succ _)]
        rfl
      simp [stops, ends, goForwardLoop, counted]

def backwardStops (controller : SessionController) (position : Nat) : List Nat :=
  beforeHeads redirects controller.items position

variable (inside : position < controller.items.length)
include inside

theorem followsAt_redirects :
    followsAt redirects controller.items position =
      controller.items[position].transitionType.isRedirect := by
  simp [followsAt, redirects, inside]

omit inside

theorem backwardStops_succ (inside : position + 1 < controller.items.length) :
    controller.backwardStops (position + 1) =
      if controller.items[position + 1].transitionType.isRedirect then
        controller.backwardStops position
      else
        position :: controller.backwardStops position := by
  rw [← followsAt_redirects inside]
  rfl

include inside

/-- A step back skips to the head of a chain, if there is one above the first item. -/
theorem skipRedirectsBack_spec :
    controller.skipRedirectsBack position = some 0 ∧ controller.backwardStops position = [] ∨
      ∃ before, before < position ∧ controller.skipRedirectsBack position = some (before + 1) ∧
        controller.backwardStops position = before :: controller.backwardStops before := by
  induction position with
  | zero => exact .inl ⟨rfl, rfl⟩
  | succ position _ =>
    have found : controller.items[position + 1]? = some controller.items[position + 1] :=
      List.getElem?_eq_getElem inside
    unfold skipRedirectsBack
    grind [backwardStops_succ]

omit inside

/-- The steps that are left lead to a negative index. -/
def LeavesHistory (steps : Nat) (ended : Checked (Nat × Int)) : Prop :=
  ∃ (left : Nat) (result : Int), ended = some (left, result) ∧
    -steps ≤ result - left ∧ result - left < 0

theorem goBackLoop_outside : controller.goBackLoop steps (-1) = some (steps, -1) := by
  cases steps <;> rfl

include inside

theorem goBackLoop_step :
    controller.backwardStops position = [] ∧
        LeavesHistory (steps + 1) (controller.goBackLoop (steps + 1) position) ∨
      ∃ before, before < position ∧
        controller.backwardStops position = before :: controller.backwardStops before ∧
        controller.goBackLoop (steps + 1) position = controller.goBackLoop steps before := by
  rcases Nat.eq_zero_or_pos position with zero | positive
  · subst zero
    refine .inl ⟨rfl, steps + 1, 0, rfl, ?_⟩
    omega
  · have walks : controller.goBackLoop (steps + 1) position =
        (controller.skipRedirectsBack position).bind fun skipped =>
          controller.goBackLoop steps ((skipped : Int) - 1) := by
      simp [goBackLoop, if_pos (by omega)]
    rw [walks]
    rcases skipRedirectsBack_spec inside with ⟨skipped, stops⟩ | ⟨before, lower, skipped, stops⟩
    · rw [skipped]
      refine .inl ⟨stops, steps, -1, goBackLoop_outside steps, ?_⟩
      omega
    · grind

/-- Up to the last stop the steps back lead to the items in front of the chains, and more
steps lead to a negative index. -/
theorem goBackLoop_spec :
    (∀ stop, (controller.backwardStops position)[steps]? = some stop →
      controller.goBackLoop (steps + 1) position = some (0, (stop : Int))) ∧
    ((controller.backwardStops position).length ≤ steps →
      LeavesHistory (steps + 1) (controller.goBackLoop (steps + 1) position)) := by
  induction steps generalizing position with
  | zero =>
    rcases goBackLoop_step 0 inside with ⟨stops, leaves⟩ | ⟨before, _, stops, walks⟩
    · simp [stops, leaves]
    · rw [stops, walks]
      simp [goBackLoop]
  | succ steps ih =>
    rcases goBackLoop_step (steps + 1) inside with ⟨stops, leaves⟩ | ⟨before, lower, stops, walks⟩
    · simp [stops, leaves]
    · obtain ⟨reached, passed⟩ := ih (Nat.lt_trans lower inside)
      rw [stops, walks, List.getElem?_cons_succ, List.length_cons]
      refine ⟨reached, fun few => ?_⟩
      obtain ⟨left, result, ended, low, negative⟩ := passed (Nat.le_of_succ_le_succ few)
      grind [LeavesHistory, goBackLoop]

omit inside

theorem narrowToInt_of_fits (low : intMin ≤ value) (high : value ≤ intMax) :
    narrowToInt value = value := by
  grind [narrowToInt, intMin, intMax]

/-- A sum above the largest `int` wraps around to a negative one. -/
theorem narrowToInt_of_above (above : intMax < value) (bound : value < 2 ^ 32) :
    narrowToInt value < 0 := by
  unfold intMax at above
  have around : narrowToInt value = narrowToInt (value - 2 ^ 32) := by
    exact (Int.sub_bmod_right ..).symm
  rw [around, narrowToInt_eq (by omega) (by omega)]
  omega

/-! ## What the lists are -/

include inside

theorem backwardLoop_spec :
    ∃ items, controller.backwardLoop position = some items ∧
      items.map some =
        (controller.backwardStops position).map fun stop => controller.items[stop]? := by
  induction position with
  | zero => exact ⟨[], rfl, rfl⟩
  | succ position ih =>
    obtain ⟨_, listed, same⟩ := ih (Nat.lt_of_succ_lt inside)
    have found : controller.items[position + 1]? = some controller.items[position + 1] :=
      List.getElem?_eq_getElem inside
    have before : controller.items[position]? = some controller.items[position] :=
      List.getElem?_eq_getElem (Nat.lt_of_succ_lt inside)
    have tested : controller.isRedirectTransitionForItemAtIndex (position + 1) =
        some controller.items[position + 1].transitionType.isRedirect := by
      simp [isRedirectTransitionForItemAtIndex, found]
    unfold backwardLoop
    rw [tested, backwardStops_succ inside, listed, before]
    split_ifs with redirect
    · simp [redirect, same]
    · simp [redirect, same]

omit inside

theorem filter_drop_eq {rest : List NavigationItem}
    (split : controller.items.drop position = rest) :
    (rest.filter fun item => !item.transitionType.isRedirect).map some =
      (headsFrom redirects controller.items position).map fun head => controller.items[head]? := by
  induction rest generalizing position with
  | nil =>
    rw [headsFrom_of_le (List.drop_eq_nil_iff.mp split)]
    rfl
  | cons _ _ _ =>
    have length := congrArg List.length split
    rw [List.length_drop, List.length_cons] at length
    have inside : position < controller.items.length := by omega
    obtain ⟨rfl, rest_eq⟩ := List.cons.inj (split.symm.trans (List.drop_eq_getElem_cons inside))
    grind [headsFrom_cons, followsAt_redirects]

/-! ## The offsets and the lists -/

def next (controller : SessionController) : Nat := (controller.lastCommittedItemIndex + 1).toNat

def forwardHeads (controller : SessionController) : List Nat :=
  headsFrom redirects controller.items controller.next

def nextIsRedirect (controller : SessionController) : Bool :=
  followsAt redirects controller.items controller.next

/-- A history in which offsets count from the last committed item: no item of it is pending,
the current item is not the page that restores sessions, and the items can be counted. -/
structure CountsFromCommitted (env : NavigationEnvironment)
    (controller : SessionController) : Prop where
  wellIndexed : controller.WellIndexed
  noPendingIndex : controller.pendingItemIndex = -1
  notRestoring : ∀ item, controller.lastCommittedItem = some (some item) →
    env.isRestoreSessionUrl item.url = false
  few : controller.items.length ≤ intMax

theorem forwardItems_eq : controller.forwardItems.map some =
    controller.forwardHeads.map fun head => controller.items[head]? :=
  filter_drop_eq rfl

theorem length_forwardStops : (controller.forwardStops controller.next).length =
    controller.forwardItems.length + if controller.nextIsRedirect then 1 else 0 := by
  have lengths : controller.forwardItems.length = controller.forwardHeads.length := by
    have same := congrArg List.length (@forwardItems_eq controller)
    simpa using same
  unfold forwardStops nextIsRedirect
  rw [length_stopsFrom, lengths]
  rfl

/-- The positions of the backward items.  With a transient item the last committed one is
the first step back. -/
def backwardPositions (controller : SessionController) : List Nat :=
  if controller.lastCommittedItemIndex > -1 then
    if controller.transientItem.isSome then
      controller.lastCommittedItemIndex.toNat ::
        controller.backwardStops controller.lastCommittedItemIndex.toNat
    else
      controller.backwardStops controller.lastCommittedItemIndex.toNat
  else
    []

namespace CountsFromCommitted

variable (counts : CountsFromCommitted env controller)

include counts

theorem getItemCount_eq : controller.getItemCount = controller.items.length :=
  narrowToInt_of_fits (by unfold intMin; omega) counts.few

theorem lastCommittedItemIndex_cases : controller.lastCommittedItemIndex = -1 ∨
    ∃ position : Nat, controller.lastCommittedItemIndex = position ∧
      position < controller.items.length := by
  have inside := counts.wellIndexed.lastCommitted
  unfold IsIndex at inside
  by_cases missing : controller.lastCommittedItemIndex = -1
  · exact .inl missing
  · exact .inr ⟨controller.lastCommittedItemIndex.toNat, by omega, by omega⟩

omit counts in
theorem lastCommittedItem_eq (last : controller.lastCommittedItemIndex = position)
    (inside : position < controller.items.length) :
    controller.lastCommittedItem = some (some controller.items[position]) := by
  simp [lastCommittedItem, last]

theorem getLastCommittedItemIndex_eq :
    controller.getLastCommittedItemIndex env = some controller.lastCommittedItemIndex := by
  have few := counts.few
  unfold intMax at few
  exact getLastCommittedItemIndex_of_shown counts.wellIndexed (by omega) counts.notRestoring

theorem getIndexForOffset_forward :
    controller.getIndexForOffset env (steps + 1 : Nat) =
      let ended := controller.goForwardLoop (steps + 1) controller.lastCommittedItemIndex
      some (if narrowToInt (ended.2 + ended.1) < 0 then intMax
        else narrowToInt (ended.2 + ended.1)) := by
  unfold getIndexForOffset
  rw [if_pos counts.noPendingIndex, counts.getLastCommittedItemIndex_eq]
  have forward : ¬ ((steps + 1 : Nat) : Int) < 0 := by omega
  have positive : ((steps + 1 : Nat) : Int) > 0 := by omega
  rw [Option.bind_eq_bind, Option.bind_some]
  beta_reduce
  rw [if_neg forward, if_pos positive, Int.toNat_natCast]
  generalize controller.goForwardLoop (steps + 1) controller.lastCommittedItemIndex = ended
  obtain ⟨_, _⟩ := ended
  rfl

variable {steps : Nat}

/-- Forward offsets lead to the ends of the chains at the stops after the current item. -/
theorem forward_reaches {stop : Nat}
    (here : (controller.forwardStops controller.next)[steps]? = some stop) :
    ∃ last : Nat, EndsChain redirects controller.items stop last ∧
      controller.getIndexForOffset env (steps + 1 : Nat) = some (last : Int) := by
  have inside := counts.wellIndexed.lastCommitted
  unfold IsIndex at inside
  have few := counts.few
  have bound : controller.next ≤ controller.items.length := by
    unfold next
    omega
  have start : ((controller.next : Nat) : Int) - 1 = controller.lastCommittedItemIndex := by
    unfold next
    omega
  have walked := (goForwardLoop_spec counts.getItemCount_eq steps bound).1 stop here
  rw [start] at walked
  have present : stop < controller.items.length := by
    have member := List.mem_of_getElem? here
    unfold forwardStops stopsFrom at member
    split_ifs at member with redirect
    · rcases List.mem_cons.mp member with same | later
      · grind [not_followsAt_of_le]
      · exact (mem_headsFrom.mp later).2.1
    · exact (mem_headsFrom.mp member).2.1
  have chain : EndsChain redirects controller.items stop (controller.endOfChain stop) :=
    (chainEnd_spec rfl present).1
  have last := chain.inside
  refine ⟨controller.endOfChain stop, chain, ?_⟩
  rw [counts.getIndexForOffset_forward, walked]
  dsimp only
  have sum : ((controller.endOfChain stop : Nat) : Int) + (0 : Nat) =
      controller.endOfChain stop := by
    omega
  rw [sum, narrowToInt_of_fits (by unfold intMin; omega) (by omega), if_neg (by omega)]

/-- Behind the last stop the index is not in the history. -/
theorem forward_leaves (fits : steps + 1 ≤ intMax)
    (many : (controller.forwardStops controller.next).length ≤ steps) :
    ∃ index, controller.getIndexForOffset env (steps + 1 : Nat) = some index ∧
      controller.items.length ≤ index := by
  have inside := counts.wellIndexed.lastCommitted
  unfold IsIndex at inside
  have few := counts.few
  have bound : controller.next ≤ controller.items.length := by
    unfold next
    omega
  have start : ((controller.next : Nat) : Int) - 1 = controller.lastCommittedItemIndex := by
    unfold next
    omega
  obtain ⟨left, fewer, walked⟩ := (goForwardLoop_spec counts.getItemCount_eq steps bound).2 many
  rw [start] at walked
  refine ⟨_, counts.getIndexForOffset_forward steps, ?_⟩
  rw [walked]
  dsimp only
  rcases Int.lt_or_le intMax (controller.items.length + left) with above | within
  · rw [if_pos (narrowToInt_of_above above (by unfold intMax at few fits; omega))]
    exact few
  · rw [narrowToInt_of_fits (by unfold intMin; omega) within, if_neg (by omega)]
    omega

theorem backwardItems_eq : ∃ backward, controller.backwardItems = some backward ∧
    backward.map some =
      controller.backwardPositions.map fun position => controller.items[position]? := by
  unfold backwardItems backwardPositions
  rcases counts.lastCommittedItemIndex_cases with missing | ⟨position, last, inside⟩
  · simp [missing]
  · obtain ⟨items, listed, same⟩ := backwardLoop_spec inside
    have current := lastCommittedItem_eq last inside
    have committed : (position : Int) > -1 := by omega
    rw [current, last, if_pos committed, if_pos committed, Int.toNat_natCast, listed]
    split_ifs with transient
    · simp [same]
    · exact ⟨items, rfl, same⟩

variable {distance : Nat}

variable (positive : 1 ≤ distance)
include positive

theorem getIndexForOffset_backward :
    controller.getIndexForOffset env (-distance) =
      (controller.goBackLoop (distance - if controller.transientItem.isSome then 1 else 0)
        controller.lastCommittedItemIndex).bind fun ended =>
          some (if narrowToInt (ended.2 - ended.1) > controller.getItemCount then intMin
            else narrowToInt (ended.2 - ended.1)) := by
  unfold getIndexForOffset
  rw [if_pos counts.noPendingIndex, counts.getLastCommittedItemIndex_eq]
  have backward : -(distance : Int) < 0 := by omega
  have steps : (-(if controller.transientItem.isSome ∧ controller.pendingItemIndex = -1 then
      -(distance : Int) + 1 else -distance)).toNat =
        distance - if controller.transientItem.isSome then 1 else 0 := by
    simp only [counts.noPendingIndex, and_true]
    split_ifs <;> omega
  simp only [Option.bind_eq_bind, Option.bind_some, backward, if_true, steps]
  rfl

/-- Backward offsets lead to the positions of the backward items. -/
theorem backward_reaches (here : controller.backwardPositions[distance - 1]? = some position) :
    position < controller.items.length ∧
      controller.getIndexForOffset env (-distance) = some (position : Int) := by
  have few := counts.few
  obtain missing | ⟨last, committed, inside⟩ := counts.lastCommittedItemIndex_cases
  · simp [backwardPositions, missing] at here
  have ends : controller.goBackLoop (distance - if controller.transientItem.isSome then 1 else 0)
      controller.lastCommittedItemIndex = some (0, (position : Int)) ∧
        position < controller.items.length := by
    unfold backwardPositions at here
    have reached : ∀ steps, (controller.backwardStops last)[steps]? = some position →
        controller.goBackLoop (steps + 1) last = some (0, (position : Int)) ∧
          position < controller.items.length := by
      intro steps stopped
      have lower := lt_of_mem_beforeHeads (List.mem_of_getElem? stopped)
      grind [goBackLoop_spec]
    grind [goBackLoop]
  obtain ⟨walked, present⟩ := ends
  refine ⟨present, ?_⟩
  rw [counts.getIndexForOffset_backward positive, walked, Option.bind_some]
  have whole : (position : Int) - (0 : Nat) = position := by omega
  rw [whole, narrowToInt_of_fits (by unfold intMin; omega) (by omega), counts.getItemCount_eq,
    if_neg (by omega)]

/-- Before the last stop the index is negative. -/
theorem backward_leaves (fits : intMin ≤ -distance)
    (many : controller.backwardPositions.length < distance) :
    ∃ index, controller.getIndexForOffset env (-distance) = some index ∧ index < 0 := by
  have few := counts.few
  rw [counts.getIndexForOffset_backward positive]
  obtain missing | ⟨last, committed, inside⟩ := counts.lastCommittedItemIndex_cases
  · have empty : controller.items.length = 0 := by
      rw [counts.wellIndexed.empty.mp missing]
      rfl
    rw [missing, goBackLoop_outside, counts.getItemCount_eq, empty]
    refine ⟨_, rfl, ?_⟩
    generalize steps : (distance - if controller.transientItem.isSome then 1 else 0) = count
    rcases Int.lt_or_le (-1 - count) intMin with below | within
    · -- a sum below the smallest `int` wraps around to a positive one
      have around : (-1 - count : Int) = -1 - 2 ^ 31 := by
        unfold intMin at below fits
        omega
      rw [around]
      decide
    · rw [narrowToInt_of_fits within (by unfold intMax; omega), if_neg (by omega)]
      omega
  · have leaves : ∃ steps : Nat, steps ≤ distance ∧ LeavesHistory steps (controller.goBackLoop
        (distance - if controller.transientItem.isSome then 1 else 0)
          controller.lastCommittedItemIndex) := by
      unfold backwardPositions at many
      rw [committed, if_pos (by omega), Int.toNat_natCast] at many
      split_ifs at many ⊢ with transient
      · rw [List.length_cons] at many
        obtain ⟨steps, rfl⟩ : ∃ steps, distance = steps + 2 := ⟨distance - 2, by omega⟩
        grind [goBackLoop_spec]
      · obtain ⟨steps, rfl⟩ : ∃ steps, distance = steps + 1 := ⟨distance - 1, by omega⟩
        grind [goBackLoop_spec]
    obtain ⟨steps, fewer, leaves⟩ := leaves
    obtain ⟨left, result, ended, low, negative⟩ := leaves
    rw [ended]
    refine ⟨_, rfl, ?_⟩
    rw [narrowToInt_of_fits (by omega) (by unfold intMax; omega), counts.getItemCount_eq,
      if_neg (by omega)]
    exact negative

theorem canGoToOffset_forward (fits : distance ≤ intMax) :
    controller.canGoToOffset env distance =
      some (decide (distance ≤ controller.forwardItems.length +
        if controller.nextIsRedirect then 1 else 0)) := by
  obtain ⟨steps, rfl⟩ : ∃ steps, distance = steps + 1 := ⟨distance - 1, by omega⟩
  rw [← length_forwardStops]
  unfold canGoToOffset
  rcases Nat.lt_or_ge steps (controller.forwardStops controller.next).length with reach | beyond
  · obtain ⟨last, chain, index⟩ := counts.forward_reaches (List.getElem?_eq_getElem reach)
    have inside := chain.inside
    rw [index, decide_eq_true (Nat.succ_le_of_lt reach)]
    simp [counts.getItemCount_eq, inside]
  · grind [counts.forward_leaves, counts.getItemCount_eq]

theorem canGoToOffset_backward (fits : intMin ≤ -distance) :
    controller.canGoToOffset env (-distance) =
      some (decide (distance ≤ controller.backwardPositions.length)) := by
  unfold canGoToOffset
  rcases Nat.lt_or_ge controller.backwardPositions.length distance with beyond | reach
  · grind [counts.backward_leaves]
  · have inside : distance - 1 < controller.backwardPositions.length := by omega
    obtain ⟨present, located⟩ :=
      counts.backward_reaches positive (List.getElem?_eq_getElem inside)
    rw [located, decide_eq_true reach]
    simp [counts.getItemCount_eq, present]

end CountsFromCommitted

/--
Without a pending item in the history a forward offset leads to the end of a chain:
first, if the current item was redirected, to the end of its own chain, and then to
the ends of the chains that the forward items head, as many as there are.
-/
theorem forward_offsets (counts : CountsFromCommitted env controller) {distance : Nat}
    (positive : 1 ≤ distance) (fits : distance ≤ intMax) :
    controller.forwardItems.map some =
        controller.forwardHeads.map (fun head => controller.items[head]?) ∧
      controller.canGoToOffset env distance =
        some (decide (distance ≤ controller.forwardItems.length +
          if controller.nextIsRedirect then 1 else 0)) ∧
      ∀ stop,
        (if controller.nextIsRedirect then controller.next :: controller.forwardHeads
          else controller.forwardHeads)[distance - 1]? = some stop →
        ∃ last : Nat, EndsChain redirects controller.items stop last ∧
          controller.getIndexForOffset env distance = some (last : Int) := by
  refine ⟨forwardItems_eq, counts.canGoToOffset_forward positive fits, ?_⟩
  intro stop here
  obtain ⟨steps, rfl⟩ : ∃ steps, distance = steps + 1 := ⟨distance - 1, by omega⟩
  refine counts.forward_reaches ?_
  unfold nextIsRedirect at here
  unfold forwardStops stopsFrom
  split_ifs at here ⊢ with redirect
  · have inside : controller.next < controller.items.length := by
      by_contra outside
      exact not_followsAt_of_le (by omega) redirect
    have heads : controller.forwardHeads =
        headsFrom redirects controller.items (controller.next + 1) := by
      unfold forwardHeads
      rw [headsFrom_cons inside, if_pos redirect]
    rwa [heads] at here
  · exact here

def transitions (transitionTypes : List PageTransition) (lastCommittedItemIndex : Int) :
    SessionController :=
  { items := (List.range transitionTypes.length).zipWith
      (fun number transitionType => { url := ⟨toString number⟩, transitionType }) transitionTypes
    lastCommittedItemIndex }

def visits (urls : List String) (lastCommittedItemIndex : Int) : SessionController :=
  { items := urls.map fun spec => { url := ⟨spec⟩ }, lastCommittedItemIndex }

theorem forward_offsets_chain :
    (transitions [.link, .link, .clientRedirect] 0).canGoToOffset plainEnvironment 1 =
        some true ∧
      ∃ last : Nat, EndsChain redirects (transitions [.link, .link, .clientRedirect] 0).items
          1 last ∧
        (transitions [.link, .link, .clientRedirect] 0).getIndexForOffset plainEnvironment 1 =
          some (last : Int) := by
  have counts : CountsFromCommitted plainEnvironment
      (transitions [.link, .link, .clientRedirect] 0) :=
    ⟨by decide, rfl, fun _ _ => rfl, by decide⟩
  obtain ⟨_, reached, located⟩ := forward_offsets counts (show 1 ≤ 1 by decide) (by decide)
  exact ⟨reached.trans (by decide), located 1 (by decide)⟩

/-- The forward item is the head of a chain and the offset leads to its end; a redirect of
the current item is one more step; and there is no current item while the page that restores
sessions is shown. -/
theorem forward_offsets_differ :
    ((transitions [.link, .link, .clientRedirect] 0).getIndexForOffset plainEnvironment 1 =
        some 2 ∧
      (transitions [.link, .link, .clientRedirect] 0).forwardItems[0]? ≠
        (transitions [.link, .link, .clientRedirect] 0).items[2]?) ∧
    ((transitions [.link, .clientRedirect, .link] 0).canGoToOffset plainEnvironment 2 =
        some true ∧
      (transitions [.link, .clientRedirect, .link] 0).forwardItems.length = 1) ∧
    ((visits ["restore", "a"] 0).canGoToOffset restoringEnvironment 2 = some true ∧
      (visits ["restore", "a"] 0).forwardItems.length = 1) := by
  decide

/--
Without a pending item in the history a backward offset leads to the position of a
backward item, and no offset however large leads further than the lists: back as
many steps as there are backward items, and forward as many as there are forward
items and one more if the current item was redirected.
-/
theorem backward_offsets (counts : CountsFromCommitted env controller) :
    ∃ backward, controller.backwardItems = some backward ∧
      backward.map some =
        controller.backwardPositions.map (fun position => controller.items[position]?) ∧
      (∀ distance : Nat, 1 ≤ distance → intMin ≤ -distance →
        controller.canGoToOffset env (-distance) =
            some (decide (distance ≤ backward.length)) ∧
          ∀ position : Nat, controller.backwardPositions[distance - 1]? = some position →
            controller.getIndexForOffset env (-distance) = some (position : Int)) ∧
      ∀ distance : Nat, 1 ≤ distance → distance ≤ intMax →
        controller.canGoToOffset env distance = some true →
        distance ≤ controller.forwardItems.length + if controller.nextIsRedirect then 1 else 0 := by
  obtain ⟨backward, listed, same⟩ := counts.backwardItems_eq
  refine ⟨backward, listed, same, fun distance positive fits => ⟨?_, ?_⟩, ?_⟩
  · grind [List.length_map, counts.canGoToOffset_backward]
  · intro position here
    exact (counts.backward_reaches positive here).2
  · grind [counts.canGoToOffset_forward]

theorem backward_offsets_transient :
    ∃ backward, SessionController.backwardItems
        { transitions [.link, .link, .clientRedirect] 2 with transientItem := some {} } =
          some backward ∧
      SessionController.canGoToOffset plainEnvironment
          { transitions [.link, .link, .clientRedirect] 2 with transientItem := some {} } (-2) =
        some (decide (2 ≤ backward.length)) := by
  have counts : CountsFromCommitted plainEnvironment
      { transitions [.link, .link, .clientRedirect] 2 with transientItem := some {} } :=
    ⟨by decide, rfl, fun _ _ => rfl, by decide⟩
  obtain ⟨backward, listed, _, back, _⟩ := backward_offsets counts
  exact ⟨backward, listed, (back 2 (by decide) (by decide)).1⟩

/-- Two steps lead forward and one item is listed; and no step leads back from the page that
restores sessions, whatever is listed. -/
theorem backward_offsets_exceed :
    ((transitions [.link, .clientRedirect, .link] 0).canGoToOffset plainEnvironment 2 =
        some true ∧
      (transitions [.link, .clientRedirect, .link] 0).forwardItems.length < 2) ∧
    ((visits ["a", "restore"] 1).canGoToOffset restoringEnvironment (-1) = some false ∧
      (visits ["a", "restore"] 1).backwardItems = some [{ url := ⟨"a"⟩ }]) := by
  decide

end SessionController

end ChromiumIos
