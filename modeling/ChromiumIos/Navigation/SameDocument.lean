import ChromiumIos.Navigation.SessionController

/-!
# Navigations within one document

Two items of the history belong to one document when the page itself made every item from
behind the earlier one to the later one, with URLs of one origin.  The scan compares the
URLs with that of the item it is given first and asserts that they are valid.
-/

namespace ChromiumIos.SessionController

open Lib

variable {env : NavigationEnvironment} {controller : SessionController}

def CreatedByPage (item : NavigationItem) : Prop :=
  item.isCreatedFromPushState ∨ item.isCreatedFromHashChange

/-- The item is behind the earlier one of two places and not behind the later one. -/
def IsBetween (controller : SessionController) (first second : Nat) (item : NavigationItem) :
    Prop :=
  ∃ index, min first second < index ∧ index ≤ max first second ∧
    controller.items[index]? = some item

structure ContinuesDocument (env : NavigationEnvironment) (origin : GURL)
    (item : NavigationItem) : Prop where
  created : CreatedByPage item
  valid : env.isValid item.url
  sameOrigin : env.getOrigin item.url = origin

/-- Two items have one origin, and the page made all that leads from one to the other. -/
structure SameDocument (env : NavigationEnvironment) (controller : SessionController)
    (first second : Nat) (firstItem secondItem : NavigationItem) : Prop where
  sameOrigin : env.getOrigin firstItem.url = env.getOrigin secondItem.url
  between : ∀ item, controller.IsBetween first second item →
    ContinuesDocument env (env.getOrigin firstItem.url) item

/-! ## The scan -/

theorem isHistoryStateChangeValid_eq_true_iff {currentUrl toUrl : GURL} :
    isHistoryStateChangeValid env currentUrl toUrl = some true ↔
      env.isValid currentUrl ∧ env.isValid toUrl ∧
        env.getOrigin toUrl = env.getOrigin currentUrl := by
  simp [isHistoryStateChangeValid, dcheck_bind_eq_some]

theorem isHistoryStateChangeValid_of_valid {currentUrl toUrl : GURL}
    (current : env.isValid currentUrl) (valid : env.isValid toUrl) :
    isHistoryStateChangeValid env currentUrl toUrl =
      some (env.getOrigin toUrl == env.getOrigin currentUrl) := by
  unfold isHistoryStateChangeValid
  rw [dcheck_of current, dcheck_of valid]
  rfl

variable {firstUrl : GURL} {items : List NavigationItem}

/-- The scan of no items asserts nothing, not even that the first URL is valid. -/
theorem sameDocumentItems_eq_true_iff :
    sameDocumentItems env firstUrl items = some true ↔
      (items ≠ [] → env.isValid firstUrl) ∧
        ∀ item ∈ items, ContinuesDocument env (env.getOrigin firstUrl) item := by
  induction items with
  | nil =>
    simp [sameDocumentItems]
  | cons item _ ih =>
    unfold sameDocumentItems
    split
    case isTrue foreign =>
      refine iff_of_false nofun fun ⟨_, continues⟩ => ?_
      rcases (continues item List.mem_cons_self).created with pushed | hashed <;> grind
    case isFalse own =>
      have created : CreatedByPage item := by
        unfold CreatedByPage
        tauto
      constructor
      · intro scanned
        obtain ⟨valid, checked, scanned⟩ := bind_eq_some scanned
        cases valid with
        | false => cases scanned
        | true =>
          obtain ⟨firstValid, itemValid, sameOrigin⟩ :=
            isHistoryStateChangeValid_eq_true_iff.mp checked
          refine ⟨fun _ => firstValid, fun other mem => ?_⟩
          rcases List.mem_cons.mp mem with rfl | later
          · exact ⟨created, itemValid, sameOrigin⟩
          · exact (ih.mp scanned).2 other later
      · rintro ⟨valid, continues⟩
        have firstValid := valid (List.cons_ne_nil _ _)
        obtain ⟨-, itemValid, sameOrigin⟩ := continues item List.mem_cons_self
        have checked := isHistoryStateChangeValid_eq_true_iff.mpr
          ⟨firstValid, itemValid, sameOrigin⟩
        grind

/-- The scan returns when the URLs are valid. -/
theorem sameDocumentItems_returns (valid : env.isValid firstUrl)
    (allValid : ∀ item ∈ items, env.isValid item.url) :
    ∃ answer, sameDocumentItems env firstUrl items = some answer := by
  induction items with
  | nil => exact ⟨true, rfl⟩
  | cons item _ _ =>
    grind [sameDocumentItems,
      isHistoryStateChangeValid_of_valid valid (allValid item List.mem_cons_self)]

/-- All that the scan reads of the first URL is its origin, once it is valid. -/
theorem sameDocumentItems_sameOrigin {secondUrl : GURL} (valid : env.isValid firstUrl)
    (otherValid : env.isValid secondUrl)
    (sameOrigin : env.getOrigin firstUrl = env.getOrigin secondUrl) :
    sameDocumentItems env firstUrl items =
      sameDocumentItems env secondUrl items := by
  induction items with
  | nil => rfl
  | cons item _ ih =>
    have checks : isHistoryStateChangeValid env firstUrl item.url =
        isHistoryStateChangeValid env secondUrl item.url := by
      unfold isHistoryStateChangeValid
      grind
    unfold sameDocumentItems
    rw [checks, ih]

/-! ## Two items of the history -/

section Items

variable {first second : Nat} {firstItem secondItem : NavigationItem}

/-- The items that the scan goes through. -/
theorem mem_drop_take_iff {item : NavigationItem} :
    item ∈ (controller.items.drop (min first second + 1)).take
        (max first second - min first second) ↔
      controller.IsBetween first second item := by
  rw [List.mem_iff_getElem?]
  constructor
  · grind [IsBetween]
  · rintro ⟨index, behind, notBehind, found⟩
    refine ⟨index - (min first second + 1), ?_⟩
    grind

/-- What is asked of two items at different places. -/
theorem isSameDocumentNavigationBetweenItems_eq (different : first ≠ second)
    (atFirst : controller.items[first]? = some firstItem)
    (atSecond : controller.items[second]? = some secondItem) :
    controller.isSameDocumentNavigationBetweenItems env first second =
      if env.getOrigin firstItem.url ≠ env.getOrigin secondItem.url then
        some false
      else
        sameDocumentItems env firstItem.url
          ((controller.items.drop (min first second + 1)).take
            (max first second - min first second)) := by
  unfold isSameDocumentNavigationBetweenItems
  rw [if_neg different, atFirst, atSecond]
  rfl

theorem scanned_ne_nil (different : first ≠ second)
    (atFirst : controller.items[first]? = some firstItem)
    (atSecond : controller.items[second]? = some secondItem) :
    (controller.items.drop (min first second + 1)).take (max first second - min first second) ≠
      [] := by
  have later : ∃ item, controller.items[max first second]? = some item := by
    grind
  obtain ⟨item, found⟩ := later
  exact List.ne_nil_of_mem (mem_drop_take_iff.mpr ⟨_, by omega, Nat.le_refl _, found⟩)

theorem isSameDocument_eq_true_iff (different : first ≠ second)
    (atFirst : controller.items[first]? = some firstItem)
    (atSecond : controller.items[second]? = some secondItem) :
    controller.isSameDocumentNavigationBetweenItems env first second = some true ↔
      env.isValid firstItem.url ∧
        SameDocument env controller first second firstItem secondItem := by
  have nonempty := scanned_ne_nil different atFirst atSecond
  rw [isSameDocumentNavigationBetweenItems_eq different atFirst atSecond]
  split
  case isTrue foreign =>
    exact iff_of_false nofun fun ⟨_, document⟩ => foreign document.sameOrigin
  case isFalse same =>
    rw [sameDocumentItems_eq_true_iff]
    constructor
    · rintro ⟨valid, continues⟩
      exact ⟨valid nonempty, not_not.mp same, fun item between =>
        continues item (mem_drop_take_iff.mpr between)⟩
    · rintro ⟨valid, document⟩
      exact ⟨fun _ => valid, fun item mem => document.between item (mem_drop_take_iff.mp mem)⟩

theorem isSameDocument_symm (different : first ≠ second)
    (atFirst : controller.items[first]? = some firstItem)
    (atSecond : controller.items[second]? = some secondItem)
    (valid : env.isValid firstItem.url)
    (otherValid : env.isValid secondItem.url) :
    controller.isSameDocumentNavigationBetweenItems env first second =
      controller.isSameDocumentNavigationBetweenItems env second first := by
  rw [isSameDocumentNavigationBetweenItems_eq different atFirst atSecond,
    isSameDocumentNavigationBetweenItems_eq different.symm atSecond atFirst,
    Nat.min_comm second first, Nat.max_comm second first]
  by_cases same : env.getOrigin firstItem.url = env.getOrigin secondItem.url
  · rw [if_neg (not_not.mpr same), if_neg (not_not.mpr same.symm)]
    exact sameDocumentItems_sameOrigin valid otherValid same
  · rw [if_pos same, if_pos (Ne.symm same)]

/--
The test of two items of a history.  No item is in one document with itself.  Two items at
different places are exactly if they have one origin and the page made all the items behind
the earlier one up to the later one, by either means and with valid URLs of that origin.  The
order of the two does not matter when their URLs are valid, and no assertion fails when
those of the items between them are valid as well.
-/
theorem isSameDocument_spec (env : NavigationEnvironment)
    (controller : SessionController) (first second : Nat) (firstItem secondItem : NavigationItem)
    (atFirst : controller.items[first]? = some firstItem)
    (atSecond : controller.items[second]? = some secondItem) :
    (first = second →
      controller.isSameDocumentNavigationBetweenItems env first second = some false) ∧
    (first ≠ second →
      (controller.isSameDocumentNavigationBetweenItems env first second = some true ↔
        env.isValid firstItem.url ∧
          SameDocument env controller first second firstItem secondItem) ∧
      (env.isValid firstItem.url → env.isValid secondItem.url →
        controller.isSameDocumentNavigationBetweenItems env first second =
          controller.isSameDocumentNavigationBetweenItems env second first) ∧
      (env.isValid firstItem.url →
        (∀ item, controller.IsBetween first second item → env.isValid item.url) →
        ∃ answer,
          controller.isSameDocumentNavigationBetweenItems env first second =
            some answer)) := by
  refine ⟨fun same => if_pos same, fun different => ⟨?_, ?_, ?_⟩⟩
  · exact isSameDocument_eq_true_iff different atFirst atSecond
  · exact isSameDocument_symm different atFirst atSecond
  · intro valid allValid
    rw [isSameDocumentNavigationBetweenItems_eq different atFirst atSecond]
    split
    · exact ⟨false, rfl⟩
    · exact sameDocumentItems_returns valid fun item mem =>
        allValid item (mem_drop_take_iff.mp mem)

end Items

def hashedThenPushed : SessionController :=
  { items := [{ url := ⟨"a"⟩ }, { url := ⟨"a#1"⟩, isCreatedFromHashChange := true },
      { url := ⟨"a#2"⟩, isCreatedFromPushState := true }]
    lastCommittedItemIndex := 2 }

theorem isSameDocument_spec_mixed :
    hashedThenPushed.isSameDocumentNavigationBetweenItems plainEnvironment 2 0 = some true ∧
      SameDocument plainEnvironment hashedThenPushed 2 0
        { url := ⟨"a#2"⟩, isCreatedFromPushState := true } { url := ⟨"a"⟩ } := by
  have answer : hashedThenPushed.isSameDocumentNavigationBetweenItems plainEnvironment 2 0 =
      some true := by decide
  have spec := isSameDocument_spec plainEnvironment hashedThenPushed 2 0
    { url := ⟨"a#2"⟩, isCreatedFromPushState := true } { url := ⟨"a"⟩ } rfl rfl
  grind

def pushedBehindEmpty : SessionController :=
  { items := [{ url := .empty }, { url := ⟨"about:blank#1"⟩, isCreatedFromPushState := true }] }

/-- An item is not in one document with itself, the two ways of the page may follow each
other, and an invalid URL fails the assertion in one order of the items only. -/
theorem isSameDocument_other :
    hashedThenPushed.isSameDocumentNavigationBetweenItems plainEnvironment 0 0 = some false ∧
      hashedThenPushed.isSameDocumentNavigationBetweenItems plainEnvironment 0 2 = some true ∧
      (∃ item ∈ hashedThenPushed.items.drop 1, item.isCreatedFromPushState = false) ∧
      (∃ item ∈ hashedThenPushed.items.drop 1, item.isCreatedFromHashChange = false) ∧
      pushedBehindEmpty.isSameDocumentNavigationBetweenItems restoringEnvironment 0 1 = none ∧
      pushedBehindEmpty.isSameDocumentNavigationBetweenItems restoringEnvironment 1 0 =
        some true := by
  decide

end ChromiumIos.SessionController
