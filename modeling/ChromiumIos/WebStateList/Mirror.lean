import ChromiumIos.WebStateList.Safety

/-!
# A mirror of the list built from its notifications

The tab strip, the tab grid and the tab model keep their own copy of the list
and change it only when they are notified.  A mirror does the same: it inserts,
erases, moves and overwrites at the reported indices, shifts its active
position like any other position, and forgets it when the element there goes.
Every effect of an operation takes the mirror of a list to the mirror of the
list it leaves, so a mirror that starts empty always shows the list.
-/

namespace ChromiumIos.WebStateList

open Lib

variable {W : Type}

/-- What an observer keeps of a list. -/
structure Mirror (W : Type) where
  webStates : List W
  activeIndex : Int
  deriving DecidableEq, Repr

namespace Mirror

def empty : Mirror W := ⟨[], kInvalidIndex⟩

def activeWebState (mirror : Mirror W) : Option W :=
  at? mirror.webStates mirror.activeIndex

def observe (mirror : Mirror W) : Notification W → Mirror W
  | .insertedAt webState index _ =>
    ⟨insertAt mirror.webStates index webState, insertShift index mirror.activeIndex⟩
  | .moved webState fromIndex toIndex =>
    ⟨insertAt (eraseAt mirror.webStates fromIndex) toIndex webState,
      moveShift fromIndex toIndex mirror.activeIndex⟩
  | .replacedAt _ newWebState index =>
    { mirror with webStates := setAt mirror.webStates index newWebState }
  | .detachedAt _ index =>
    ⟨eraseAt mirror.webStates index,
      if mirror.activeIndex = index then kInvalidIndex
      else eraseShift index mirror.activeIndex⟩
  | .activatedAt _ _ activeIndex _ => { mirror with activeIndex := activeIndex }
  | .willDetachAt _ _ | .willCloseAt _ _ _ => mirror

end Mirror

def mirror (list : WebStateList W) : Mirror W := ⟨list.webStates, list.activeIndex⟩

theorem mirror_activeWebState (list : WebStateList W) :
    list.mirror.activeWebState = list.activeWebState := rfl

variable [DecidableEq W]
variable {list after : WebStateList W} {notifications : List (Notification W)}

/-- An activation that is not reported leaves the active index as it is. -/
theorem observe_activation {index : Int} (wf : list.WellFormed)
    (inside : list.ContainsIndex index) (reason : ChangeReason) :
    (activation list.activeWebState (at? list.webStates index) index reason).foldl
      Mirror.observe list.mirror = mirror { list with activeIndex := index } := by
  simp only [activation]
  split
  · rename_i same
    obtain ⟨webState, found⟩ := (containsIndex_iff_webStates list index).mp inside
    have unchanged := at?_inj wf.nodup (same.trans found) found
    rw [List.foldl_nil, ← unchanged]
  · rfl

theorem Effect.mirror {OwnOpener : Prop} (wf : list.WellFormed)
    (effect : Effect OwnOpener list notifications after) :
    notifications.foldl Mirror.observe list.mirror = after.mirror := by
  cases effect with
  | insert _ _ _ _ _ _ =>
    simp only [List.foldl_cons, List.foldl_nil, Mirror.observe, WebStateList.mirror,
      webStates_withNew]
    rfl
  | move _ _ =>
    simp only [List.foldl_cons, List.foldl_nil, Mirror.observe, WebStateList.mirror,
      webStates_withMoved]
    rfl
  | replace _ _ =>
    simp only [List.foldl_cons, List.foldl_nil, Mirror.observe, WebStateList.mirror,
      webStates_withReplaced]
    rfl
  | detachInactive _ inactive =>
    simp only [List.foldl_cons, List.foldl_nil, Mirror.observe, WebStateList.mirror,
      if_neg inactive]
    rw [webStates_eraseAt]
  | detachActive _ wrappers _ =>
    simp [Mirror.observe, WebStateList.mirror, webStates_erased wrappers]
  | close _ _ _ => rfl
  | activate inside => exact observe_activation wf inside .userAction
  | setOpener taken _ _ =>
    rw [List.foldl_nil, WebStateList.mirror, WebStateList.mirror, webStates_withOpener taken]
    rfl

theorem chain_mirror {OwnOpener : Prop} (wf : list.WellFormed)
    (chain : Chain (Effect OwnOpener) list notifications after) :
    notifications.foldl Mirror.observe list.mirror = after.mirror := by
  induction chain with
  | refl => rfl
  | head effect _ ih =>
    simpa [effect.mirror wf] using ih (effect.wellFormed wf)

/--
An observer that starts from the empty list and replays the notifications of a
run has the WebStates of the list, in order, and the same active WebState.
-/
theorem mirror_shows_list (run : Run notifications list) :
    (notifications.foldl Mirror.observe Mirror.empty).webStates = list.webStates ∧
    (notifications.foldl Mirror.observe Mirror.empty).activeWebState = list.activeWebState := by
  have shows : notifications.foldl Mirror.observe Mirror.empty = list.mirror := by
    refine Runs.invariant_outputs (fun notifications list =>
      notifications.foldl Mirror.observe Mirror.empty = mirror list) run rfl ?_
    intro earlier list after input emitted before shows admissible stepped
    rw [List.foldl_append, shows]
    have wf := Run.wellFormed before
    exact chain_mirror wf (step_chain wf admissible stepped)
  rw [shows]
  exact ⟨rfl, mirror_activeWebState list⟩

def moveReplaceClose : List (Input Nat) :=
  [⟨fun _ => 0, .insertWebState 0 1 insertActivate .null⟩,
    ⟨fun _ => 0, .insertWebState 0 2 (insertActivate ||| insertInheritOpener) .null⟩,
    ⟨fun _ => 0, .insertWebState 0 3 insertForceIndex .null⟩,
    ⟨fun _ => 0, .moveWebStateAt 0 2⟩,
    ⟨fun _ => 0, .replaceWebStateAt 0 4⟩,
    ⟨fun _ => 0, .closeWebStateAt 1 closeUserAction⟩]

theorem mirror_shows_list_moveReplaceClose :
    ∃ notifications, ∃ list : WebStateList Nat, Run notifications list ∧
      list.webStates = [4, 3] ∧
      (notifications.foldl Mirror.observe Mirror.empty).webStates = list.webStates ∧
      (notifications.foldl Mirror.observe Mirror.empty).activeWebState = list.activeWebState := by
  have run : Run _ _ :=
    Runs.replay moveReplaceClose .start (Option.eq_some_of_isSome (by decide))
  exact ⟨_, _, run, by decide, mirror_shows_list run⟩

end ChromiumIos.WebStateList
