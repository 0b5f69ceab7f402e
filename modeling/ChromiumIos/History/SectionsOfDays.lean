import ChromiumIos.History.HistoryEntryInserter
import ChromiumIos.Lib.PairedLists

/-!
# Days of the history in their order

The sections of the history, the dates and the identifiers of the dates' sections stay in step
through every insertion and removal.  A section holds the entries of its day, none of them twice.
-/

namespace ChromiumIos

open Lib
open List (Forall₂)

namespace HistoryEntryInserter

variable {URL : Type} [LinearOrder URL] (localMidnight : Int → Int)

/-! ## What is kept -/

/-- From most to least recent, then by URL. -/
def Before (first second : HistoryEntryItem URL) : Prop :=
  second.timestamp < first.timestamp ∨
    first.timestamp = second.timestamp ∧ first.url < second.url

/-- A section holds entries of one day, in their order. -/
structure IsSectionOf (sectionIdentifiers : Store Int Int)
    (dateSection : ListModel.ItemSection (HistoryEntryItem URL)) (date : Int) : Prop where
  identified : sectionIdentifiers date = some dateSection.identifier
  ofDay : ∀ item ∈ dateSection.items, dateOf localMidnight item.timestamp = date
  ordered : dateSection.items.Pairwise Before

/-- The sections of the history are those of the dates, in the order of the dates. -/
structure Sorted (state : HistoryEntryInserter URL) : Prop where
  dates : state.dates.Pairwise (· > ·)
  sections : Forall₂ (IsSectionOf localMidnight state.sectionIdentifiers) state.historySections
    state.dates
  identifiers : Set.BijOn state.sectionIdentifiers {date | (state.sectionIdentifiers date).isSome}
    {identifier | ∃ dateSection ∈ state.historySections,
      identifier = some dateSection.identifier}

/-- What every step keeps. -/
structure Invariant (state : HistoryEntryInserter URL) : Prop where
  inside : state.firstSectionIndex ≤ state.listModel.sections.length
  dates : state.dates.Pairwise (· > ·)
  sections : Forall₂ (IsSectionOf localMidnight state.sectionIdentifiers) state.historySections
    state.dates
  keys : ∀ date identifier, state.sectionIdentifiers date = some identifier →
    date ∈ state.dates ∧ kSectionIdentifierEnumZero ≤ identifier

/-! ## The order of the entries -/

section Order

variable {first second item : HistoryEntryItem URL} {date other : Int}

def orderKey (item : HistoryEntryItem URL) : Intᵒᵈ ×ₗ URL :=
  toLex (OrderDual.toDual item.timestamp, item.url)

theorem before_iff : Before first second ↔ orderKey first < orderKey second := by
  simp [Before, orderKey, Prod.Lex.toLex_lt_toLex]

theorem isEqual_iff : isEqualToHistoryEntryItem first second = true ↔
    orderKey first = orderKey second := by
  simp [isEqualToHistoryEntryItem, orderKey, and_comm]

theorem objectComparator_eq (first second : HistoryEntryItem URL) :
    objectComparator first second = compare (orderKey first) (orderKey second) := by
  unfold objectComparator
  by_cases equal : isEqualToHistoryEntryItem first second = true
  · rw [if_pos equal, eq_comm, compare_eq_iff_eq]
    exact isEqual_iff.mp equal
  · rw [if_neg equal]
    rw [isEqual_iff] at equal
    rcases lt_trichotomy first.timestamp second.timestamp with less | same | greater
    · have after : orderKey second < orderKey first := before_iff.mp (.inl less)
      simp [less, less.le, compare_gt_iff_gt.mpr after]
    · have urls : first.url ≠ second.url := fun url => equal (by simp [orderKey, same, url])
      rcases lt_or_gt_of_ne urls with less | greater
      · have before : orderKey first < orderKey second := before_iff.mp (.inr ⟨same, less⟩)
        simp [same, less, compare_lt_iff_lt.mpr before]
      · have after : orderKey second < orderKey first := before_iff.mp (.inr ⟨same.symm, greater⟩)
        simp [same, greater.le, compare_gt_iff_gt.mpr after]
    · have before : orderKey first < orderKey second := before_iff.mp (.inl greater)
      simp [greater, compare_lt_iff_lt.mpr before]

theorem dateComparator_eq (date other : Int) :
    dateComparator date other = compare (OrderDual.toDual date) (OrderDual.toDual other) := rfl

theorem pairwise_before_iff {items : List (HistoryEntryItem URL)} :
    items.Pairwise Before ↔
      items.Pairwise fun first second => orderKey first < orderKey second :=
  List.Pairwise.iff fun _ _ => before_iff

end Order

/-! ## Sections and their dates -/

section Sections

variable {localMidnight} {state after : HistoryEntryInserter URL}
variable {before rest : List (ListModel.ItemSection (HistoryEntryItem URL))}
variable {here : ListModel.ItemSection (HistoryEntryItem URL)}
variable {sectionIdentifiers : Store Int Int} {date other identifier : Int}
variable {items : List (HistoryEntryItem URL)}

theorem date_unique {sections : List (ListModel.ItemSection (HistoryEntryItem URL))}
    {dates : List Int}
    (paired : Forall₂ (IsSectionOf localMidnight sectionIdentifiers) sections dates)
    (distinct : (sections.map ListModel.ItemSection.identifier).Nodup)
    (mem : date ∈ dates) (otherMem : other ∈ dates)
    (same : sectionIdentifiers date = sectionIdentifiers other) : date = other := by
  induction paired with
  | nil => cases mem
  | @cons _ firstDate _ dates isSection paired _ =>
    have elsewhere : ∀ later ∈ dates,
        sectionIdentifiers later ≠ sectionIdentifiers firstDate := by
      intro later laterMem equal
      obtain ⟨second, secondMem, isLater⟩ := exists_of_mem_right paired laterMem
      grind [isLater.identified, isSection.identified]
    grind

omit [LinearOrder URL] in
theorem historySections_split (split : state.listModel.sections = before ++ here :: rest)
    (inside : state.firstSectionIndex ≤ before.length) :
    state.historySections = before.drop state.firstSectionIndex ++ here :: rest := by
  rw [historySections, split, List.drop_append_of_le_length inside]

omit [LinearOrder URL] in
theorem historySections_nodup (state : HistoryEntryInserter URL) :
    (state.historySections.map ListModel.ItemSection.identifier).Nodup :=
  state.listModel.distinct.sublist ((List.drop_sublist _ _).map _)

omit [LinearOrder URL] in
/-- A section that is inserted has no entries. -/
theorem entries_insertSection {index : Nat} {listModel} {count : Nat} {dates : List Int}
    (inserted : state.listModel.insertSectionWithIdentifier identifier
      (state.firstSectionIndex + index) = some listModel) :
    ({ state with
      listModel
      sectionIdentifierCount := count
      sectionIdentifiers
      dates } : HistoryEntryInserter URL).entries = state.entries := by
  have bound := ListModel.le_of_insertSectionWithIdentifier _ inserted
  have length : (state.listModel.sections.take (state.firstSectionIndex + index)).length =
      state.firstSectionIndex + index :=
    List.length_take_of_le bound
  have split := (List.take_append_drop (state.firstSectionIndex + index)
    state.listModel.sections).symm
  rw [← length] at inserted
  have sections := state.listModel.of_insertSectionWithIdentifier inserted split
  have inside : state.firstSectionIndex ≤
      (state.listModel.sections.take (state.firstSectionIndex + index)).length := by
    omega
  have before : state.historySections =
      (state.listModel.sections.take (state.firstSectionIndex + index)).drop
          state.firstSectionIndex ++
        state.listModel.sections.drop (state.firstSectionIndex + index) := by
    rw [← List.drop_append_of_le_length inside, ← split]
    rfl
  rw [entries, entries, before, historySections, sections, List.drop_append_of_le_length inside]
  simp

omit [LinearOrder URL] in
theorem entries_sectionIdentifierForTimestamp {timestamp : Int} {emitted}
    (returned : sectionIdentifierForTimestamp localMidnight timestamp state =
      some (identifier, after, emitted)) : after.entries = state.entries := by
  simp only [sectionIdentifierForTimestamp] at returned
  split at returned
  · cases returned
    rfl
  · obtain ⟨listModel, inserted, returned⟩ := bind_eq_some returned
    cases returned
    exact entries_insertSection inserted

omit [LinearOrder URL] in
/-- The entries of the history are those of a section and of the others. -/
theorem entries_withItems (split : state.listModel.sections = before ++ here :: rest)
    (inside : state.firstSectionIndex ≤ before.length) :
    ({ state with listModel := state.listModel.withItems before.length items } :
        HistoryEntryInserter URL).entries =
      (before.drop state.firstSectionIndex).flatMap ListModel.ItemSection.items ++
        (items ++ rest.flatMap ListModel.ItemSection.items) := by
  unfold entries historySections
  dsimp only
  rw [state.listModel.withItems_split split, List.drop_append_of_le_length inside]
  simp

variable {item : HistoryEntryItem URL}

namespace Invariant

theorem initWithModel (listModel : ListModel (HistoryEntryItem URL)) :
    Invariant localMidnight (initWithModel listModel) where
  inside := le_rfl
  dates := .nil
  sections := by
    simp [historySections, HistoryEntryInserter.initWithModel, ListModel.numberOfSections]
  keys date identifier found := by cases found

variable (invariant : Invariant localMidnight state)

include invariant

theorem unique (found : state.sectionIdentifiers date = some identifier)
    (otherFound : state.sectionIdentifiers other = some identifier) : date = other :=
  date_unique invariant.sections state.historySections_nodup (invariant.keys _ _ found).1
    (invariant.keys _ _ otherFound).1 (found.trans otherFound.symm)

/-- The section of a date is among those of the history. -/
theorem exists_section (found : state.sectionIdentifiers date = some identifier) :
    ∃ before here rest, state.listModel.sections = before ++ here :: rest ∧
      state.firstSectionIndex ≤ before.length ∧ here.identifier = identifier ∧
      IsSectionOf localMidnight state.sectionIdentifiers here date := by
  obtain ⟨here, mem, isSection⟩ :=
    exists_of_mem_right invariant.sections (invariant.keys _ _ found).1
  obtain ⟨before, rest, split⟩ := List.append_of_mem mem
  have identified := isSection.identified
  rw [found, Option.some_inj] at identified
  refine ⟨state.listModel.sections.take state.firstSectionIndex ++ before, here, rest, ?_, ?_,
    identified.symm, isSection⟩
  · simp [← split, historySections]
  · simp [List.length_take_of_le invariant.inside]

/-- The items of a section may change as the section's date allows. -/
theorem withItems (split : state.listModel.sections = before ++ here :: rest)
    (kept : state.firstSectionIndex ≤ before.length → ∀ date,
      IsSectionOf localMidnight state.sectionIdentifiers here date →
        IsSectionOf localMidnight state.sectionIdentifiers { here with items := items } date) :
    Invariant localMidnight
      { state with listModel := state.listModel.withItems before.length items } where
  inside := by
    grind [state.listModel.withItems_split split, inside]
  dates := invariant.dates
  sections := by
    have sections := invariant.sections
    unfold historySections at *
    rw [split] at sections
    rw [state.listModel.withItems_split split]
    rcases Nat.lt_or_ge before.length state.firstSectionIndex with earlier | later
    · rw [List.drop_append, List.drop_of_length_le earlier.le] at sections ⊢
      obtain ⟨past, positive⟩ : ∃ past, state.firstSectionIndex - before.length = past + 1 :=
        ⟨state.firstSectionIndex - before.length - 1, by omega⟩
      grind
    · grind [forall₂_replace]
  keys := invariant.keys

/-- The dates before a new one are those of the sections before its section. -/
theorem insertSection (isNew : state.sectionIdentifiers date = none) {listModel}
    (assigned : kSectionIdentifierEnumZero ≤ identifier)
    (inserted : state.listModel.insertSectionWithIdentifier identifier
      (state.firstSectionIndex + insertionIndex dateComparator state.dates date) =
        some listModel) (count : Nat) :
    Invariant localMidnight { state with
      listModel
      sectionIdentifierCount := count
      sectionIdentifiers := state.sectionIdentifiers.write (date, some identifier)
      dates := insertObject state.dates date
        (insertionIndex dateComparator state.dates date) } := by
  have absent : date ∉ state.dates := by
    intro mem
    obtain ⟨here, -, isSection⟩ := exists_of_mem_right invariant.sections mem
    exact absurd (isNew.symm.trans isSection.identified) nofun
  have differs : ∀ other ∈ state.dates, OrderDual.toDual other ≠ OrderDual.toDual date := by
    intro other mem same
    exact absent (OrderDual.toDual.injective same ▸ mem)
  have ordered := sorted_insertIdx dateComparator_eq invariant.dates differs
  obtain ⟨early, late, split, index, -, -⟩ :=
    exists_parts dateComparator_eq invariant.dates date
  have paired := invariant.sections
  rw [split] at paired
  obtain ⟨first, last, parted, heads, tails⟩ := exists_append_of_right paired
  -- The sections up to the new one are those before the history and those of the earlier dates.
  let earlier := state.listModel.sections.take state.firstSectionIndex
  have taken : earlier.length = state.firstSectionIndex := List.length_take_of_le invariant.inside
  have whole : state.listModel.sections = (earlier ++ first) ++ last := by
    rw [List.append_assoc, ← parted, historySections, List.take_append_drop]
  have position : state.firstSectionIndex + insertionIndex dateComparator state.dates date =
      (earlier ++ first).length := by
    simp [taken, index, heads.length_eq]
  rw [position] at inserted
  have sections := state.listModel.of_insertSectionWithIdentifier inserted whole
  have written : ∀ (dateSection : ListModel.ItemSection (HistoryEntryItem URL)) (other : Int),
      IsSectionOf localMidnight state.sectionIdentifiers dateSection other →
        IsSectionOf localMidnight (state.sectionIdentifiers.write (date, some identifier))
          dateSection other := by
    intro dateSection other isSection
    refine ⟨?_, isSection.ofDay, isSection.ordered⟩
    grind [Store.write_of_ne, isSection.identified]
  have own : IsSectionOf localMidnight (state.sectionIdentifiers.write (date, some identifier))
      ⟨identifier, ([] : List (HistoryEntryItem URL))⟩ date :=
    ⟨Store.write_self, fun _ mem => absurd mem List.not_mem_nil, .nil⟩
  refine ⟨?_, ?_, ?_, ?_⟩
  · simp [sections, taken]
  · simpa [insertObject, if_neg absent] using ordered
  · dsimp only [historySections]
    rw [insertObject, if_neg absent, index, split, insertIdx_length_append, sections,
      List.append_assoc, ← taken, List.drop_left]
    exact forall₂_append (heads.imp written) (.cons own (tails.imp written))
  · intro other found otherFound
    dsimp only at otherFound ⊢
    rw [insertObject, if_neg absent, index, split, insertIdx_length_append]
    by_cases same : other = date
    · grind [Store.write_self]
    · rw [Store.write_of_ne same] at otherFound
      obtain ⟨mem, positive⟩ := invariant.keys _ _ otherFound
      grind

theorem of_sectionIdentifierForTimestamp {timestamp : Int} {emitted}
    (returned : sectionIdentifierForTimestamp localMidnight timestamp state =
      some (identifier, after, emitted)) :
    Invariant localMidnight after ∧
      after.sectionIdentifiers (dateOf localMidnight timestamp) = some identifier := by
  unfold sectionIdentifierForTimestamp at returned
  cases found : state.sectionIdentifiers (dateOf localMidnight timestamp) with
  | some _ =>
    have positive := (invariant.keys _ _ found).2
    grind [kSectionIdentifierEnumZero]
  | none =>
    simp only [found, Option.getD_none, ne_eq, not_true, if_false] at returned
    obtain ⟨listModel, inserted, returned⟩ := bind_eq_some returned
    cases returned
    refine ⟨invariant.insertSection found ?_ inserted _, Store.write_self⟩
    omega

/-- The section of a date is told again without any change. -/
theorem sectionIdentifierForTimestamp_known {timestamp : Int}
    (found : state.sectionIdentifiers (dateOf localMidnight timestamp) = some identifier) :
    sectionIdentifierForTimestamp localMidnight timestamp state =
      some (identifier, state, []) := by
  have positive := (invariant.keys _ _ found).2
  have nonzero : identifier ≠ 0 := by
    unfold kSectionIdentifierEnumZero at positive
    omega
  simp [sectionIdentifierForTimestamp, found, if_pos nonzero]

/-- An item is put where it belongs in the section of its day. -/
theorem insertItem (found : state.sectionIdentifiers (dateOf localMidnight item.timestamp) =
      some here.identifier) (split : state.listModel.sections = before ++ here :: rest)
    (isNew : indexOfEqual? objectComparator here.items item = none)
    (isSection : IsSectionOf localMidnight state.sectionIdentifiers here
      (dateOf localMidnight item.timestamp)) :
    Invariant localMidnight { state with
      listModel := state.listModel.withItems before.length
        (here.items.insertIdx (insertionIndex objectComparator here.items item) item) } := by
  have sorted := pairwise_before_iff.mp isSection.ordered
  have absent : ∀ other ∈ here.items, orderKey other ≠ orderKey item := by
    intro other mem same
    have isSome := (indexOfEqual?_isSome objectComparator_eq sorted).mpr ⟨other, mem, same⟩
    rw [isNew] at isSome
    cases isSome
  apply invariant.withItems split
  intro _ date isOther
  obtain rfl : date = dateOf localMidnight item.timestamp :=
    invariant.unique isOther.identified found
  refine ⟨isOther.identified, fun other mem => ?_, ?_⟩
  · rcases List.eq_or_mem_of_mem_insertIdx mem with rfl | mem
    · rfl
    · exact isOther.ofDay other mem
  · exact pairwise_before_iff.mpr (sorted_insertIdx objectComparator_eq sorted absent)

theorem of_insertHistoryEntryItem {item : HistoryEntryItem URL} {emitted}
    (inserted : insertHistoryEntryItem localMidnight item state = some (after, emitted)) :
    Invariant localMidnight after := by
  obtain ⟨⟨identifier, middle, told⟩, returned, inserted⟩ := bind_eq_some inserted
  obtain ⟨kept, found⟩ := invariant.of_sectionIdentifierForTimestamp returned
  obtain ⟨before, here, rest, split, -, rfl, isSection⟩ := kept.exists_section found
  obtain ⟨items, taken, inserted⟩ := bind_eq_some inserted
  rw [middle.listModel.itemsInSectionWithIdentifier_split split] at taken
  cases taken
  cases searched : indexOfEqual? objectComparator here.items item with
  | some _ =>
    grind
  | none =>
    rw [searched] at inserted
    obtain ⟨_, -, inserted⟩ := bind_eq_some inserted
    obtain ⟨_, added, inserted⟩ := bind_eq_some inserted
    have inside : insertionIndex objectComparator here.items item ≤ here.items.length :=
      (partsAt_insertionIndex objectComparator_eq (pairwise_before_iff.mp isSection.ordered)).1
    have typed := ListModel.typed_of_insertItem _ _ added
    rw [ListModel.insertItem_split _ _ split typed inside] at added
    cases added
    cases inserted
    exact kept.insertItem found split searched isSection

theorem of_removeItemWithType {itemType : Int} {index : Nat} {listModel}
    (removed : state.listModel.removeItemWithType HistoryEntryItem.type itemType identifier index =
      some listModel) :
    Invariant localMidnight { state with listModel } := by
  obtain ⟨_, _, _, _, split, rfl⟩ :=
    ListModel.of_removeItemWithType _ _ removed
  apply invariant.withItems split
  intro _ date isSection
  refine ⟨isSection.identified, fun item mem => ?_, ?_⟩
  · exact isSection.ofDay item (List.mem_of_mem_eraseIdx mem)
  · exact isSection.ordered.sublist (List.eraseIdx_sublist _ _)

/-- A section goes together with its date. -/
theorem removeDate {listModel} (split : state.listModel.sections = before ++ here :: rest)
    (inside : state.firstSectionIndex ≤ before.length)
    (removed : listModel.sections = before ++ rest)
    (found : state.sectionIdentifiers date = some here.identifier) :
    Invariant localMidnight { state with
      listModel
      sectionIdentifiers := state.sectionIdentifiers.write (date, none)
      dates := state.dates.erase date } := by
  have paired := invariant.sections
  rw [historySections_split split inside] at paired
  obtain ⟨early, partner, late, parted, heads, isSection, tails⟩ := exists_cons_of_left paired
  obtain rfl : date = partner := invariant.unique found isSection.identified
  have distinct := invariant.dates
  rw [parted] at distinct
  have others : ∀ other ∈ early ++ late, other ≠ date := by
    have nodup := distinct.imp fun less => ne_of_gt less
    grind
  have erased : state.dates.erase date = early ++ late := by
    grind
  have kept : ∀ dates : List Int, dates ⊆ early ++ late →
      ∀ sections : List (ListModel.ItemSection (HistoryEntryItem URL)),
      Forall₂ (IsSectionOf localMidnight state.sectionIdentifiers) sections dates →
        Forall₂ (IsSectionOf localMidnight (state.sectionIdentifiers.write (date, none)))
          sections dates := by
    intro dates among sections paired
    refine forall₂_imp_mem paired fun dateSection _ other mem isSection => ?_
    refine ⟨?_, isSection.ofDay, isSection.ordered⟩
    rw [Store.write_of_ne (others other (among mem)), isSection.identified]
  refine ⟨?_, ?_, ?_, ?_⟩
  · grind
  · grind
  · dsimp only [historySections]
    grind [forall₂_append]
  · intro other identifier otherFound
    dsimp only at otherFound ⊢
    by_cases same : other = date
    · simp [same] at otherFound
    · rw [Store.write_of_ne same] at otherFound
      obtain ⟨mem, positive⟩ := invariant.keys _ _ otherFound
      grind

theorem of_removeSection {sectionIndex : Nat} {keyEnumerator : List Int} {emitted}
    (accepted : accepts state (.removeSection sectionIndex keyEnumerator))
    (removed : removeSection sectionIndex keyEnumerator state = some (after, emitted)) :
    Invariant localMidnight after := by
  obtain ⟨_, enumerates⟩ := accepted
  obtain ⟨_, taken, removed⟩ := bind_eq_some removed
  obtain ⟨_, -, removed⟩ := bind_eq_some removed
  obtain ⟨-, removed⟩ := dcheck_then removed
  obtain ⟨_, removedSection, removed⟩ := bind_eq_some removed
  obtain ⟨here, at_index, rfl⟩ := Option.map_eq_some_iff.mp taken
  obtain ⟨bound, rfl⟩ := List.getElem?_eq_some_iff.mp at_index
  have split : state.listModel.sections =
      state.listModel.sections.take sectionIndex ++
        state.listModel.sections[sectionIndex] ::
          state.listModel.sections.drop (sectionIndex + 1) := by
    simp
  have length : (state.listModel.sections.take sectionIndex).length = sectionIndex :=
    List.length_take_of_le (Nat.le_of_lt bound)
  have sections := ListModel.of_removeSectionWithIdentifier _ removedSection split
  generalize state.listModel.sections[sectionIndex] = here at *
  have mem : here ∈ state.historySections := by
    simp [historySections_split split (by rwa [length])]
  obtain ⟨date, -, isSection⟩ := exists_of_mem_left invariant.sections mem
  cases search : dateOfIdentifier? keyEnumerator state.sectionIdentifiers here.identifier with
  | none =>
    have isKey : date ∈ keyEnumerator := by
      rw [enumerates, isSection.identified]
      rfl
    exact absurd (decide_eq_true isSection.identified) (List.find?_eq_none.mp search date isKey)
  | some found =>
    have identified : state.sectionIdentifiers found = some here.identifier := by
      simpa using List.find?_some search
    rw [search] at removed
    cases removed
    exact invariant.removeDate split (by rwa [length]) sections identified

theorem sorted : Sorted localMidnight state where
  dates := invariant.dates
  sections := invariant.sections
  identifiers := by
    refine ⟨?_, ?_, ?_⟩
    · intro date found
      obtain ⟨identifier, found⟩ := Option.isSome_iff_exists.mp found
      obtain ⟨_, here, _, split, inside, -, isSection⟩ := invariant.exists_section found
      refine ⟨here, ?_, isSection.identified⟩
      simp [historySections_split split inside]
    · intro date found other _ same
      obtain ⟨_, found⟩ := Option.isSome_iff_exists.mp found
      exact invariant.unique found (same ▸ found)
    · rintro _ ⟨dateSection, mem, rfl⟩
      obtain ⟨date, -, isSection⟩ := exists_of_mem_left invariant.sections mem
      refine ⟨date, ?_, isSection.identified⟩
      exact Option.isSome_iff_exists.mpr ⟨_, isSection.identified⟩

/-- An item that is there is found again. -/
theorem insert_present {other : HistoryEntryItem URL} (mem : here ∈ state.historySections)
    (otherMem : other ∈ here.items) (equal : isEqualToHistoryEntryItem item other = true) :
    insertHistoryEntryItem localMidnight item state = some (state, []) := by
  obtain ⟨date, -, isSection⟩ := exists_of_mem_left invariant.sections mem
  have same := isEqual_iff.mp equal
  have times : item.timestamp = other.timestamp := by
    simp only [isEqualToHistoryEntryItem, decide_eq_true_eq] at equal
    exact equal.2
  have day : dateOf localMidnight item.timestamp = date := by
    rw [times]
    exact isSection.ofDay other otherMem
  have found := isSection.identified
  rw [← day] at found
  obtain ⟨_, _, split⟩ := List.append_of_mem (List.mem_of_mem_drop mem)
  have search := (indexOfEqual?_isSome objectComparator_eq
    (pairwise_before_iff.mp isSection.ordered)).mpr ⟨other, otherMem, same.symm⟩
  obtain ⟨_, searched⟩ := Option.isSome_iff_exists.mp search
  simp [insertHistoryEntryItem, invariant.sectionIdentifierForTimestamp_known found,
    state.listModel.itemsInSectionWithIdentifier_split split, searched]

/-- A new item is put among the entries, which stay otherwise. -/
theorem entries_insert_new {emitted}
    (isNew : ∀ other ∈ state.entries, isEqualToHistoryEntryItem item other = false)
    (inserted : insertHistoryEntryItem localMidnight item state = some (after, emitted)) :
    after.entries.Perm (item :: state.entries) := by
  obtain ⟨⟨identifier, middle, told⟩, returned, inserted⟩ := bind_eq_some inserted
  obtain ⟨kept, found⟩ := invariant.of_sectionIdentifierForTimestamp returned
  have same := entries_sectionIdentifierForTimestamp returned
  obtain ⟨before, here, rest, split, inside, rfl, isSection⟩ := kept.exists_section found
  obtain ⟨items, taken, inserted⟩ := bind_eq_some inserted
  rw [middle.listModel.itemsInSectionWithIdentifier_split split] at taken
  cases taken
  have sorted := pairwise_before_iff.mp isSection.ordered
  have present : middle.entries =
      (before.drop middle.firstSectionIndex).flatMap ListModel.ItemSection.items ++
        (here.items ++ rest.flatMap ListModel.ItemSection.items) := by
    rw [entries, historySections_split split inside]
    simp
  cases searched : indexOfEqual? objectComparator here.items item with
  | some _ =>
    obtain ⟨other, mem, equal⟩ := (indexOfEqual?_isSome objectComparator_eq sorted).mp
      (Option.isSome_of_eq_some searched)
    have memEntries : other ∈ state.entries := by
      rw [← same, present]
      simp [mem]
    have isEqual := isEqual_iff.mpr equal.symm
    rw [isNew other memEntries] at isEqual
    cases isEqual
  | none =>
    rw [searched] at inserted
    obtain ⟨_, -, inserted⟩ := bind_eq_some inserted
    obtain ⟨_, added, inserted⟩ := bind_eq_some inserted
    have room : insertionIndex objectComparator here.items item ≤ here.items.length :=
      (partsAt_insertionIndex objectComparator_eq sorted).1
    have typed := ListModel.typed_of_insertItem _ _ added
    rw [ListModel.insertItem_split _ _ split typed room] at added
    cases added
    cases inserted
    rw [entries_withItems split inside, ← same, present]
    refine List.Perm.trans ?_ List.perm_middle
    exact ((List.perm_insertIdx item here.items room).append_right _).append_left _

/-- An item that was inserted lies in the section of its day, unless an equal one does. -/
theorem inserted_inSection {emitted}
    (inserted : insertHistoryEntryItem localMidnight item state = some (after, emitted)) :
    ∃ dateSection ∈ after.historySections,
      after.sectionIdentifiers (dateOf localMidnight item.timestamp) =
        some dateSection.identifier ∧
      ∃ other ∈ dateSection.items, isEqualToHistoryEntryItem item other = true := by
  have kept := invariant.of_insertHistoryEntryItem inserted
  obtain ⟨other, mem, equal⟩ : ∃ other ∈ after.entries,
      isEqualToHistoryEntryItem item other = true := by
    by_cases isNew : ∀ other ∈ state.entries, isEqualToHistoryEntryItem item other = false
    · have among := (invariant.entries_insert_new isNew inserted).mem_iff.mpr List.mem_cons_self
      exact ⟨item, among, isEqual_iff.mpr rfl⟩
    · push Not at isNew
      obtain ⟨other, mem, equal⟩ := isNew
      obtain ⟨dateSection, sectionMem, otherMem⟩ := List.mem_flatMap.mp mem
      have present :=
        invariant.insert_present sectionMem otherMem (Bool.eq_true_of_not_eq_false equal)
      rw [inserted] at present
      cases present
      exact ⟨other, mem, Bool.eq_true_of_not_eq_false equal⟩
  obtain ⟨dateSection, sectionMem, otherMem⟩ := List.mem_flatMap.mp mem
  obtain ⟨date, -, isSection⟩ := exists_of_mem_left kept.sections sectionMem
  have times : item.timestamp = other.timestamp := by
    simp only [isEqualToHistoryEntryItem, decide_eq_true_eq] at equal
    exact equal.2
  have identified := isSection.identified
  rw [← isSection.ofDay other otherMem, ← times] at identified
  exact ⟨dateSection, sectionMem, identified, other, otherMem, equal⟩

omit invariant in
/-- What one step keeps. -/
theorem step {input : Input URL} {emitted} (invariant : Invariant localMidnight state)
    (accepted : accepts state input)
    (stepped : step localMidnight state input = some (after, emitted)) :
    Invariant localMidnight after := by
  cases input with
  | insertHistoryEntryItem _ => exact invariant.of_insertHistoryEntryItem stepped
  | sectionIdentifierForTimestamp _ =>
    obtain ⟨⟨_, _⟩, returned, same⟩ := Option.map_eq_some_iff.mp stepped
    cases same
    exact (invariant.of_sectionIdentifierForTimestamp returned).1
  | removeSection _ _ =>
    exact invariant.of_removeSection accepted stepped
  | removeItemWithType _ _ _ =>
    obtain ⟨_, removed, stepped⟩ := bind_eq_some stepped
    cases stepped
    exact invariant.of_removeItemWithType removed

end Invariant

/-! ## Identifiers that are new -/

/-- The next identifier is larger than all that are in use. -/
def Assigned (state : HistoryEntryInserter URL) : Prop :=
  ∀ identifier ∈ state.listModel.identifiers, identifier <
    kSectionIdentifierEnumZero + state.firstSectionIndex + state.sectionIdentifierCount

namespace Assigned

variable (assigned : Assigned state)

include assigned

omit [LinearOrder URL] in
theorem of_sectionIdentifierForTimestamp {timestamp : Int} {emitted}
    (returned : sectionIdentifierForTimestamp localMidnight timestamp state =
      some (identifier, after, emitted)) : Assigned after := by
  simp only [sectionIdentifierForTimestamp] at returned
  split at returned
  · cases returned
    exact assigned
  · obtain ⟨listModel, inserted, returned⟩ := bind_eq_some returned
    cases returned
    intro other mem
    dsimp only
    have known := ListModel.identifiers_insertSectionWithIdentifier _ inserted mem
    rcases List.mem_cons.mp known with rfl | earlier
    · omega
    · have less := assigned other earlier
      omega

theorem of_insertHistoryEntryItem {item : HistoryEntryItem URL} {emitted}
    (inserted : insertHistoryEntryItem localMidnight item state = some (after, emitted)) :
    Assigned after := by
  obtain ⟨⟨identifier, middle, told⟩, returned, inserted⟩ := bind_eq_some inserted
  have kept := assigned.of_sectionIdentifierForTimestamp returned
  obtain ⟨items, -, inserted⟩ := bind_eq_some inserted
  split at inserted
  · cases inserted
    exact kept
  · obtain ⟨sectionIndex, -, inserted⟩ := bind_eq_some inserted
    obtain ⟨listModel, added, inserted⟩ := bind_eq_some inserted
    grind [Assigned, ListModel.identifiers_insertItem _ _ added]

omit [LinearOrder URL] in
theorem of_removeSection {sectionIndex : Nat} {keyEnumerator : List Int} {emitted}
    (removed : removeSection sectionIndex keyEnumerator state = some (after, emitted)) :
    Assigned after := by
  obtain ⟨identifier, -, removed⟩ := bind_eq_some removed
  obtain ⟨items, -, removed⟩ := bind_eq_some removed
  obtain ⟨-, removed⟩ := dcheck_then removed
  obtain ⟨listModel, removedSection, removed⟩ := bind_eq_some removed
  have fewer := ListModel.identifiers_removeSectionWithIdentifier _ removedSection
  grind [Assigned]

theorem step {input : Input URL} {emitted}
    (stepped : step localMidnight state input = some (after, emitted)) : Assigned after := by
  cases input with
  | insertHistoryEntryItem _ => exact assigned.of_insertHistoryEntryItem stepped
  | sectionIdentifierForTimestamp _ =>
    obtain ⟨⟨identifier, result⟩, returned, same⟩ := Option.map_eq_some_iff.mp stepped
    grind [assigned.of_sectionIdentifierForTimestamp]
  | removeSection _ _ => exact assigned.of_removeSection stepped
  | removeItemWithType _ _ _ =>
    obtain ⟨listModel, removed, stepped⟩ := bind_eq_some stepped
    grind [Assigned, ListModel.identifiers_removeItemWithType _ _ removed]

theorem sectionIdentifierForTimestamp_isSome (invariant : Invariant localMidnight state)
    (timestamp : Int) :
    (sectionIdentifierForTimestamp localMidnight timestamp state).isSome := by
  cases found : state.sectionIdentifiers (dateOf localMidnight timestamp) with
  | some _ =>
    simp [invariant.sectionIdentifierForTimestamp_known found]
  | none =>
    obtain ⟨early, late, split, index, -, -⟩ := exists_parts dateComparator_eq invariant.dates
      (dateOf localMidnight timestamp)
    have lengths := invariant.sections.length_eq
    rw [historySections, List.length_drop, split, List.length_append] at lengths
    have room := invariant.inside
    have inside : state.firstSectionIndex + insertionIndex dateComparator state.dates
        (dateOf localMidnight timestamp) ≤ state.listModel.sections.length := by
      rw [index]
      omega
    have isNew : kSectionIdentifierEnumZero + state.firstSectionIndex +
        state.sectionIdentifierCount ∉ state.listModel.identifiers :=
      fun mem => (assigned _ mem).false
    obtain ⟨listModel, inserted⟩ :=
      state.listModel.exists_insertSectionWithIdentifier (by omega) isNew inside
    simp [sectionIdentifierForTimestamp, found, inserted]

/-- An item can always be inserted. -/
theorem insertHistoryEntryItem_isSome (invariant : Invariant localMidnight state)
    (typed : kItemTypeEnumZero ≤ item.type) :
    (insertHistoryEntryItem localMidnight item state).isSome := by
  obtain ⟨⟨_, middle, _⟩, returned⟩ := Option.isSome_iff_exists.mp
    (assigned.sectionIdentifierForTimestamp_isSome invariant item.timestamp)
  obtain ⟨kept, found⟩ := invariant.of_sectionIdentifierForTimestamp returned
  obtain ⟨_, here, _, split, -, rfl, isSection⟩ := kept.exists_section found
  have inside : insertionIndex objectComparator here.items item ≤ here.items.length :=
    (partsAt_insertionIndex objectComparator_eq (pairwise_before_iff.mp isSection.ordered)).1
  cases searched : indexOfEqual? objectComparator here.items item <;> simp [insertHistoryEntryItem,
    returned, searched, middle.listModel.itemsInSectionWithIdentifier_split split,
    middle.listModel.sectionForSectionIdentifier_split split,
    middle.listModel.insertItem_split HistoryEntryItem.type split typed inside]

end Assigned

/-! ## Runs of the inserter -/

/-- After every step the three structures agree and entries are in their order; an entry that is
there is not inserted again, an entry that is not there is inserted into the section of its day and
leaves the others, and none fails to be inserted where the identifiers of the sections that were
there before are those of an enumeration. -/
theorem sorted_of_run {listModel : ListModel (HistoryEntryItem URL)} {outputs}
    (run : Runs (HistoryEntryInserter.step localMidnight) accepts (initWithModel listModel)
      outputs state) :
    Sorted localMidnight state ∧
      (∀ item, (∃ dateSection ∈ state.historySections, ∃ other ∈ dateSection.items,
          isEqualToHistoryEntryItem item other = true) →
        HistoryEntryInserter.step localMidnight state (.insertHistoryEntryItem item) =
          some (state, [])) ∧
      (∀ item after emitted, HistoryEntryInserter.step localMidnight state
          (.insertHistoryEntryItem item) = some (after, emitted) →
        (∃ dateSection ∈ after.historySections,
          after.sectionIdentifiers (dateOf localMidnight item.timestamp) =
            some dateSection.identifier ∧
          ∃ other ∈ dateSection.items, isEqualToHistoryEntryItem item other = true) ∧
        ((∀ other ∈ state.entries, isEqualToHistoryEntryItem item other = false) →
          after.entries.Perm (item :: state.entries))) ∧
      ((∀ identifier ∈ listModel.identifiers,
          identifier < kSectionIdentifierEnumZero + listModel.numberOfSections) →
        ∀ item : HistoryEntryItem URL, kItemTypeEnumZero ≤ item.type →
          (HistoryEntryInserter.step localMidnight state
            (.insertHistoryEntryItem item)).isSome) := by
  have invariant : Invariant localMidnight state :=
    run.invariant _ (.initWithModel listModel) fun kept accepted stepped =>
      kept.step accepted stepped
  refine ⟨invariant.sorted, ?_, fun item after emitted inserted => ⟨?_, fun isNew => ?_⟩,
    fun enumerated item typed => ?_⟩
  · rintro item ⟨dateSection, mem, other, otherMem, equal⟩
    exact invariant.insert_present mem otherMem equal
  · exact invariant.inserted_inSection inserted
  · exact invariant.entries_insert_new isNew inserted
  · have assigned : Assigned state := by
      apply run.invariant
      · simpa [Assigned, initWithModel] using enumerated
      · intro _ _ _ _ assigned _ stepped
        exact assigned.step stepped
    exact assigned.insertHistoryEntryItem_isSome invariant typed

end Sections

def statusOnly : ListModel (HistoryEntryItem String) :=
  ⟨[⟨kSectionIdentifierEnumZero, []⟩], List.nodup_singleton _⟩

/-- Days of Universal Time. -/
def utcMidnight (timestamp : Int) : Int := timestamp - timestamp % 86400000000

def Input.keepsSections : Input URL → Bool
  | .removeSection _ _ => false
  | _ => true

omit [LinearOrder URL] in
theorem accepts_of_keepsSections {state : HistoryEntryInserter URL} {input : Input URL}
    (keeps : input.keepsSections = true) : accepts state input := by
  cases input with
  | removeSection _ _ => cases keeps
  | _ => trivial

/-- Two entries of one day, one of a later day and the first once more. -/
def visits : List (Input String) :=
  [.insertHistoryEntryItem ⟨100, "https://a.com/", 13187000000000000⟩,
    .insertHistoryEntryItem ⟨100, "https://b.com/", 13187200000000000⟩,
    .insertHistoryEntryItem ⟨100, "https://c.com/", 13187000500000000⟩,
    .insertHistoryEntryItem ⟨100, "https://a.com/", 13187000000000000⟩]

theorem replay_visits : (replay? (step utcMidnight) (fun _ input => input.keepsSections = true)
    (initWithModel statusOnly) visits).isSome := by
  decide +kernel

/-- An entry of the day between two others is put into a section of its own. -/
theorem sorted_of_run_threeDays : ∃ state after emitted,
    Sorted utcMidnight state ∧
      step utcMidnight state
          (.insertHistoryEntryItem ⟨100, "https://d.com/", 13187100000000000⟩) =
        some (after, emitted) ∧
      after.entries.Perm (⟨100, "https://d.com/", 13187100000000000⟩ :: state.entries) ∧
      after.historySections.map (fun dateSection => dateSection.items.map HistoryEntryItem.url) =
        [["https://b.com/"], ["https://d.com/"], ["https://c.com/", "https://a.com/"]] := by
  have run : Runs (step utcMidnight) accepts (initWithModel statusOnly) _ _ :=
    (Runs.replay visits .start (Option.eq_some_of_isSome replay_visits)).mono
      accepts_of_keepsSections
  obtain ⟨sorted, -, inserts, -⟩ := sorted_of_run run
  have inserted := inserts ⟨100, "https://d.com/", 13187100000000000⟩ _ _
    (Option.eq_some_of_isSome (by decide +kernel))
  exact ⟨_, _, _, sorted, Option.eq_some_of_isSome (by decide +kernel),
    inserted.2 (by decide +kernel), by decide +kernel⟩

end HistoryEntryInserter

end ChromiumIos
