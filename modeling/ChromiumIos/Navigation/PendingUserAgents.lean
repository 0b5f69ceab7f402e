import ChromiumIos.Navigation.SessionControllerIndices

/-!
# The user agent of a pending item

A new pending item gets the user agent of its load, or that of the history.  A load of the URL of
the pending item makes no new one: it comes back to the item that an earlier load has given its
user agent, and that item may not have the desktop one by then.
-/

namespace ChromiumIos.SessionController

open Lib

variable {env : NavigationEnvironment} {controller after : SessionController}
variable {url : GURL} {referrer : Referrer} {transition : PageTransition}
variable {initiationType : NavigationInitiationType} {option : UserAgentOverrideOption}

/-! ## One item -/

section Items

variable {inherited : Option NavigationItem} {item : NavigationItem}

def propagatedType (option : UserAgentOverrideOption) (inherited : Option NavigationItem) :
    UserAgentType :=
  match option with
  | .desktop => .desktop
  | .mobile => .mobile
  | .inherit => (inherited.map NavigationItem.userAgentType).getD .mobile

/-- The item has no user agent exactly if its URL carries none, and the propagated one
otherwise. -/
structure Propagated (env : NavigationEnvironment) (option : UserAgentOverrideOption)
    (inherited : Option NavigationItem) (item : NavigationItem) : Prop where
  none_iff : item.userAgentType = .none ↔ env.urlNeedsUserAgentType item.url = false
  propagated : env.urlNeedsUserAgentType item.url = true →
    item.userAgentType = propagatedType option inherited

def CanPropagate (env : NavigationEnvironment) (option : UserAgentOverrideOption)
    (inherited : Option NavigationItem) (item : NavigationItem) : Prop :=
  match item.userAgentType with
  | .desktop => False
  | .none => option = .inherit ∧ env.urlNeedsUserAgentType item.url = false
  | .mobile =>
    env.urlNeedsUserAgentType item.url = true ∧
      (option ≠ .inherit ∨ inherited.isSome →
        env.urlNeedsUserAgentType item.getVirtualURL = true) ∧
      (option = .inherit → ∀ source ∈ inherited, source.userAgentType ≠ .none)

variable {typed : NavigationItem}

theorem setUserAgentType_eq_some_iff {userAgentType : UserAgentType}
    (present : userAgentType ≠ .none) :
    item.setUserAgentType env userAgentType = some typed ↔
      env.urlNeedsUserAgentType item.getVirtualURL = true ∧
        typed = { item with userAgentType := userAgentType } := by
  unfold NavigationItem.setUserAgentType
  grind [dcheck]

/-- A mobile item passes the assertions that come before the choice of a user agent. -/
theorem update_mobile (mobile : item.userAgentType = .mobile) :
    updatePendingItemUserAgentType env option inherited item =
      match option with
      | .desktop => item.setUserAgentType env .desktop
      | .mobile => item.setUserAgentType env .mobile
      | .inherit =>
        match inherited with
        | none => some item
        | some source =>
          (dcheck (source.userAgentType ≠ .none)).bind fun _ =>
            item.setUserAgentType env source.userAgentType := by
  unfold updatePendingItemUserAgentType
  simp only [mobile, ne_eq, reduceCtorEq, not_false_eq_true, true_or, dcheck_of, if_false]
  rfl

/-- The user agent of a mobile item is set to the propagated one, unless there is none to
inherit. -/
theorem update_mobile_iff (mobile : item.userAgentType = .mobile) :
    updatePendingItemUserAgentType env option inherited item = some typed ↔
      (option ≠ .inherit ∨ inherited.isSome →
        env.urlNeedsUserAgentType item.getVirtualURL = true) ∧
      (option = .inherit → ∀ source ∈ inherited, source.userAgentType ≠ .none) ∧
        typed = { item with userAgentType := propagatedType option inherited } := by
  rw [update_mobile mobile]
  cases option with
  | desktop | mobile =>
    simp [propagatedType, setUserAgentType_eq_some_iff]
  | inherit =>
    cases inherited with
    | none =>
      have same : { item with userAgentType := propagatedType .inherit none } = item := by
        simp [propagatedType, ← mobile]
      grind
    | some _ =>
      grind [dcheck, NavigationItem.setUserAgentType, propagatedType]

theorem propagatedType_ne_none
    (present : option = .inherit → ∀ source ∈ inherited, source.userAgentType ≠ .none) :
    propagatedType option inherited ≠ .none := by
  cases option with
  | desktop | mobile => nofun
  | inherit =>
    cases inherited <;> grind [propagatedType]

/-- The assertions hold and the item is given the propagated user agent exactly for these
items. -/
theorem update_propagated_iff :
    (∃ typed, updatePendingItemUserAgentType env option inherited item = some typed ∧
      Propagated env option inherited typed) ↔
      CanPropagate env option inherited item := by
  unfold CanPropagate
  cases type : item.userAgentType with
  | desktop =>
    simp [updatePendingItemUserAgentType, type]
  | none =>
    constructor
    · rintro ⟨typed, updated, propagated⟩
      obtain ⟨inherits, updated⟩ := dcheck_then updated
      obtain ⟨-, updated⟩ := dcheck_then updated
      grind [propagated.none_iff.mp]
    · rintro ⟨rfl, native⟩
      refine ⟨item, ?_, iff_of_true type native, fun needed => ?_⟩
      · simp [updatePendingItemUserAgentType, type]
      · cases native.symm.trans needed
  | mobile =>
    constructor
    · rintro ⟨typed, updated, propagated⟩
      obtain ⟨needed, present, rfl⟩ := (update_mobile_iff type).mp updated
      refine ⟨?_, needed, present⟩
      by_contra native
      exact propagatedType_ne_none present
        (propagated.none_iff.mpr (Bool.not_eq_true _ |>.mp native))
    · rintro ⟨carries, needed, present⟩
      refine ⟨_, (update_mobile_iff type).mpr ⟨needed, present, rfl⟩, ?_, fun _ => rfl⟩
      refine iff_of_false (propagatedType_ne_none present) fun native => ?_
      cases native.symm.trans carries

end Items

/-! ## The calls -/

def withoutPendingIndex (controller : SessionController) : SessionController :=
  { controller with transientItem := none, pendingItemIndex := -1 }

def urlToLoad (env : NavigationEnvironment) (controller : SessionController) (url : GURL)
    (initiationType : NavigationInitiationType) : Checked GURL := do
  let lastCommittedItem ← controller.getLastCommittedItem env
  return loadedUrl env (fun _ => false) url initiationType
    ((lastCommittedItem.map NavigationItem.url).getD .empty) controller.transientUrlRewriters

def PropagatesUserAgent (env : NavigationEnvironment) (controller : SessionController)
    (url : GURL) (referrer : Referrer) (transition : PageTransition)
    (initiationType : NavigationInitiationType) (option : UserAgentOverrideOption) : Prop :=
  ∃ after inherited,
    controller.legacyAddPendingItem env url referrer transition initiationType option =
      some after ∧
    controller.getLastCommittedItemWithUserAgentType env = some inherited ∧
    ∀ item, after.pendingItem = some (some item) → Propagated env option inherited item

/-- A new item gets the user agent of its URL; the pending item that a load comes back to has to
be ready for its user agent once more. -/
def ReadyForUserAgent (env : NavigationEnvironment) (controller : SessionController)
    (url : GURL) (transition : PageTransition) (initiationType : NavigationInitiationType)
    (option : UserAgentOverrideOption) : Prop :=
  ∃ creates inherited loaded,
    controller.withoutPendingIndex.shouldCreatePendingItem url transition option =
      some creates ∧
    controller.getLastCommittedItemWithUserAgentType env = some inherited ∧
    controller.urlToLoad env url initiationType = some loaded ∧
    if creates then
      (env.urlNeedsUserAgentType loaded = false → option = .inherit) ∧
        (env.urlNeedsUserAgentType loaded = true → option = .inherit →
          ∀ source ∈ inherited, source.userAgentType ≠ .none)
    else
      ∀ item, controller.newPendingItem = some item → CanPropagate env option inherited item

/-! ## What the calls read -/

theorem lastItemWithUserAgentType_returns (items : List NavigationItem) {count : Nat}
    (inside : count ≤ items.length) :
    ∃ inherited, lastItemWithUserAgentType env items count = some inherited := by
  induction count with
  | zero => exact ⟨none, rfl⟩
  | succ _ _ =>
    grind [lastItemWithUserAgentType]

theorem WellIndexed.getLastCommittedItemWithUserAgentType (wf : controller.WellIndexed) :
    ∃ inherited,
      controller.getLastCommittedItemWithUserAgentType env = some inherited := by
  have last := wf.lastCommitted
  unfold IsIndex at last
  exact lastItemWithUserAgentType_returns _ (by omega)

theorem WellIndexed.urlToLoad (wf : controller.WellIndexed) :
    ∃ loaded, controller.urlToLoad env url initiationType = some loaded := by
  unfold SessionController.urlToLoad getLastCommittedItem
  obtain ⟨-, read⟩ | ⟨item, -, -, read⟩ := wf.lastCommittedItem_eq <;> simp [read]

/-! ## Adding the item -/

def createdItem (env : NavigationEnvironment) (loaded : GURL) (referrer : Referrer)
    (transition : PageTransition) (initiationType : NavigationInitiationType) :
    NavigationItem where
  originalRequestUrl := loaded
  url := loaded
  referrer := referrer
  transitionType := transition
  userAgentType := if env.urlNeedsUserAgentType loaded then .mobile else .none
  navigationInitiationType := initiationType

variable {loaded : GURL}

theorem createNavigationItem_eq
    (loads : controller.urlToLoad env url initiationType = some loaded) :
    controller.createNavigationItem env url referrer transition initiationType =
      some (createdItem env loaded referrer transition initiationType,
        { controller with transientUrlRewriters := [] }) := by
  obtain ⟨_, read, result⟩ := bind_eq_some loads
  simp [createNavigationItem, createdItem, read,
    createNavigationItemWithRewriters_eq _ _ _ _ _ _ _ _ (Option.some.inj result)]

theorem addPendingItem_eq
    (loads : controller.urlToLoad env url initiationType = some loaded) :
    controller.addPendingItem env url referrer transition initiationType option =
      (controller.withoutPendingIndex.shouldCreatePendingItem url transition option).map
        fun creates =>
          if creates then
            { controller.withoutPendingIndex with
              newPendingItem :=
                some (createdItem env loaded referrer transition initiationType)
              transientUrlRewriters := [] }
          else controller.withoutPendingIndex := by
  unfold addPendingItem
  change (shouldCreatePendingItem controller.withoutPendingIndex url transition option >>= _) = _
  cases controller.withoutPendingIndex.shouldCreatePendingItem url transition option with
  | none => rfl
  | some creates =>
    cases creates with
    | false => rfl
    | true =>
      have created : createNavigationItem env controller.withoutPendingIndex url
          referrer transition initiationType = some _ := createNavigationItem_eq loads
      change (createNavigationItem env controller.withoutPendingIndex url referrer
        transition initiationType >>= _) = _
      rw [created]
      rfl

theorem pendingItem_of_new (new : controller.pendingItemIndex = -1) :
    controller.pendingItem = some controller.newPendingItem :=
  if_pos new

variable {middle : SessionController} {inherited : Option NavigationItem}

variable (added : controller.addPendingItem env url referrer transition initiationType option =
  some middle)
include added

/-- What the manager does behind the controller with the pending item of a new navigation. -/
theorem legacyAddPendingItem_of_added (new : middle.pendingItemIndex = -1)
    (inherits : middle.getLastCommittedItemWithUserAgentType env = some inherited) :
    controller.legacyAddPendingItem env url referrer transition initiationType option =
      match middle.newPendingItem with
      | none => some middle
      | some item =>
        (updatePendingItemUserAgentType env option inherited item).map fun typed =>
          { middle with newPendingItem := some typed } := by
  simp only [legacyAddPendingItem, added, pendingItem_of_new new, inherits, Option.bind_eq_bind,
    Option.bind_some]
  cases middle.newPendingItem with
  | none => rfl
  | some _ =>
    refine Eq.trans ?_ Option.map_eq_bind.symm
    simp [writePendingItem, new]

/-- A call propagates the user agent exactly if it can be propagated to the pending item. -/
theorem propagates_of_added_iff (new : middle.pendingItemIndex = -1)
    (same : middle.getLastCommittedItemWithUserAgentType env =
      controller.getLastCommittedItemWithUserAgentType env)
    (inherits : controller.getLastCommittedItemWithUserAgentType env = some inherited) :
    PropagatesUserAgent env controller url referrer transition initiationType option ↔
      ∀ item, middle.newPendingItem = some item →
        CanPropagate env option inherited item := by
  unfold PropagatesUserAgent
  rw [legacyAddPendingItem_of_added added new (same.trans inherits), inherits]
  cases pending : middle.newPendingItem with
  | none =>
    simp [pendingItem_of_new new, pending]
  | some item =>
    constructor
    · rintro ⟨after, source, called, same, propagated⟩ other found
      cases found
      cases same
      obtain ⟨typed, updated, result⟩ := Option.map_eq_some_iff.mp called
      cases result
      have given : pendingItem { middle with newPendingItem := some typed } =
          some (some typed) := pendingItem_of_new new
      exact update_propagated_iff.mp ⟨typed, updated, propagated typed given⟩
    · intro ready
      obtain ⟨typed, updated, propagated⟩ := update_propagated_iff.mpr (ready item rfl)
      grind [pendingItem_of_new]

omit added

/-- A created item has the user agent of its URL, so that only a missing one can keep it from the
propagated one. -/
theorem canPropagate_createdItem_iff :
    CanPropagate env option inherited
        (createdItem env loaded referrer transition initiationType) ↔
      (env.urlNeedsUserAgentType loaded = false → option = .inherit) ∧
        (env.urlNeedsUserAgentType loaded = true → option = .inherit →
          ∀ source ∈ inherited, source.userAgentType ≠ .none) := by
  have shown : (createdItem env loaded referrer transition initiationType).getVirtualURL =
      loaded := by
    rfl
  unfold CanPropagate
  rw [shown]
  cases carries : env.urlNeedsUserAgentType loaded <;> simp [createdItem, carries]

/-- A call of the manager propagates the user agent to the pending item exactly when that is
ready for it. -/
theorem propagatesUserAgent_iff (env : NavigationEnvironment)
    (controller : SessionController) (url : GURL) (referrer : Referrer)
    (transition : PageTransition) (initiationType : NavigationInitiationType)
    (option : UserAgentOverrideOption) (wf : controller.WellIndexed) :
    PropagatesUserAgent env controller url referrer transition initiationType option ↔
      ReadyForUserAgent env controller url transition initiationType option := by
  obtain ⟨loaded, loads⟩ : ∃ loaded,
      controller.urlToLoad env url initiationType = some loaded := wf.urlToLoad
  obtain ⟨inherited, inherits⟩ : ∃ inherited,
      controller.getLastCommittedItemWithUserAgentType env = some inherited :=
    wf.getLastCommittedItemWithUserAgentType
  have added : controller.addPendingItem env url referrer transition initiationType option =
      _ := addPendingItem_eq loads
  constructor
  · intro propagates
    have called := propagates
    obtain ⟨_, _, called, -⟩ := called
    obtain ⟨_, performed, -⟩ := bind_eq_some called
    rw [added] at performed
    obtain ⟨creates, decided, _⟩ := Option.map_eq_some_iff.mp performed
    rw [decided, Option.map_some] at added
    refine ⟨creates, inherited, loaded, decided, inherits, loads, ?_⟩
    cases creates with
    | true =>
      have ready := (propagates_of_added_iff added rfl rfl inherits).mp propagates
      exact canPropagate_createdItem_iff.mp (ready _ rfl)
    | false => exact (propagates_of_added_iff added rfl rfl inherits).mp propagates
  · rintro ⟨creates, source, read, decided, inheritsSource, loadsRead, ready⟩
    cases inherits.symm.trans inheritsSource
    cases loads.symm.trans loadsRead
    rw [decided, Option.map_some] at added
    refine (propagates_of_added_iff added ?_ ?_ inherits).mpr ?_
    · cases creates <;> rfl
    · cases creates <;> rfl
    · cases creates with
      | true =>
        simpa using canPropagate_createdItem_iff.mpr ready
      | false => exact ready

/-- A load of another URL, with a desktop page to inherit from. -/
theorem propagatesUserAgent_iff_desktopPage :
    PropagatesUserAgent plainEnvironment
      { initWithBrowserState with
        items := [{ url := ⟨"a"⟩, userAgentType := .desktop }], lastCommittedItemIndex := 0 }
      ⟨"b"⟩ ⟨.empty, 0⟩ PageTransition.link .browserInitiated .inherit := by
  refine (propagatesUserAgent_iff _ _ _ _ _ _ _ (by decide)).mpr
    ⟨true, some { url := ⟨"a"⟩, userAgentType := .desktop }, ⟨"b"⟩, rfl, rfl, rfl, ?_⟩
  simp

/-- The same URL is loaded as a desktop page and then once more. -/
theorem not_propagatesUserAgent_sameUrl :
    ∃ controller, legacyAddPendingItem plainEnvironment initWithBrowserState ⟨"a"⟩ ⟨.empty, 0⟩
        PageTransition.link .browserInitiated .desktop = some controller ∧
      controller.WellIndexed ∧
      (∃ item, controller.pendingItem = some (some item) ∧ item.userAgentType = .desktop) ∧
      controller.legacyAddPendingItem plainEnvironment ⟨"a"⟩ ⟨.empty, 0⟩ PageTransition.link
        .browserInitiated .inherit = none ∧
      ¬ PropagatesUserAgent plainEnvironment controller ⟨"a"⟩ ⟨.empty, 0⟩ PageTransition.link
        .browserInitiated .inherit := by
  refine ⟨_, rfl, by decide, ⟨_, rfl, rfl⟩, rfl, ?_⟩
  rintro ⟨after, inherited, called, -⟩
  cases called

end ChromiumIos.SessionController
