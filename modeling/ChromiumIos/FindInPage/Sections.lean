import ChromiumIos.FindInPage.Pieces
import ChromiumIos.FindInPage.Searches

/-!
# Sections and partial matches

The sections tile the text if and only if lower-casing keeps the length of every
text node.  Then every match is split into partial matches that tile its range,
each inside its section, no section is read that does not exist, and the
highlights of a match show the matched text, unless that has line breaks or NULs.
-/

namespace ChromiumIos.FindInPage

open Lib

/-! ## The pending partial matches -/

variable {rest : List Section} {begin ending matchId frontier index : Nat} {state : State}
  {current : Section}

namespace Pending

variable {frontier begin ending : Nat} {state : State}

theorem placedAt_push («matches» : List Match) (matchId : Nat) :
    placedAt («matches» ++ [⟨[], none⟩]) matchId = placedAt «matches» matchId := by
  unfold placedAt
  grind

variable (pending : Pending frontier state)
include pending

/-- A new match has no parts yet. -/
theorem push : Pending frontier { state with «matches» := state.matches ++ [⟨[], none⟩] } where
  whole := pending.whole
  current := pending.current
  ordered := pending.ordered
  before := pending.before
  known part mem := by
    rw [List.length_append]
    exact Nat.lt_add_right _ (pending.known part mem)
  wraps found mem := by
    grind [pending.wraps]
  replaced intact := by
    apply pending.replaced
    intro matchId
    rw [← placedAt_push]
    exact intact matchId

/-- The part of a match that lies in the current section. -/
theorem extend (atIndex : state.sections[state.sectionsIndex]? = some current)
    (after : frontier ≤ begin) (ordered : begin ≤ ending)
    (known : state.matchId < state.matches.length) :
    Pending ending { state with
      partialMatches := state.partialMatches ++
        [⟨state.matchId, max current.begin begin, min current.ending ending⟩] } where
  whole := pending.whole
  current part mem := by
    rcases List.mem_append.mp mem with earlier | last
    · exact pending.current part earlier
    · have whole := pending.whole current (List.mem_of_getElem? atIndex)
      cases List.mem_singleton.mp last
      refine ⟨current, atIndex, Nat.le_max_left _ _, Nat.min_le_left _ _, ?_⟩
      unfold position
      simp only
      omega
  ordered := by
    refine List.pairwise_append.mpr ⟨pending.ordered, List.pairwise_singleton .., ?_⟩
    intro first memFirst second memSecond
    cases List.mem_singleton.mp memSecond
    exact Nat.le_trans (Nat.le_trans (pending.before first memFirst) after)
      (Nat.le_max_right _ _)
  before part mem := by
    rcases List.mem_append.mp mem with earlier | last
    · exact Nat.le_trans (pending.before part earlier) (Nat.le_trans after ordered)
    · grind
  known part mem := by
    rcases List.mem_append.mp mem with earlier | last
    · exact pending.known part earlier
    · grind
  wraps := pending.wraps
  replaced := pending.replaced

/-- When nothing is pending the loop may be at any section. -/
theorem moveTo (emptied : state.partialMatches = []) (frontier' sectionsIndex : Nat) :
    Pending frontier' { state with sectionsIndex } where
  whole := pending.whole
  current part mem := by
    grind
  ordered := pending.ordered
  before part mem := by
    grind
  known := pending.known
  wraps := pending.wraps
  replaced := pending.replaced

theorem mono {frontier' : Nat} (le : frontier ≤ frontier') : Pending frontier' state :=
  { pending with before := fun part mem => Nat.le_trans (pending.before part mem) le }

/-- The next match may be counted. -/
theorem count (matchId : Nat) : Pending frontier { state with matchId } :=
  ⟨pending.whole, pending.current, pending.ordered, pending.before, pending.known, pending.wraps,
    pending.replaced⟩

theorem advance (regex : RegExp) (begin : Nat) : Pending frontier (advance regex begin state) :=
  ⟨pending.whole, pending.current, pending.ordered, pending.before, pending.known, pending.wraps,
    pending.replaced⟩

end Pending

/-- The first of the remaining sections is the current one. -/
theorem getElem?_of_drop_eq_cons {sections : List Section}
    (remaining : sections.drop index = current :: rest) :
    sections[index]? = some current ∧ sections.drop (index + 1) = rest := by
  constructor
  · rw [← Nat.add_zero index, ← List.getElem?_drop, remaining]
    rfl
  · rw [← List.tail_drop, remaining]
    rfl

theorem Pending.splitMatch {begin ending : Nat} {sections : List Section} {state next : State}
    (pending : Pending begin state) (ordered : begin ≤ ending)
    (known : state.matchId < state.matches.length)
    (remaining : state.sections.drop state.sectionsIndex = sections)
    (split : splitMatch begin ending sections state = .ok next) :
    Pending ending next ∧ next.matches.length = state.matches.length ∧
      next.matchId = state.matchId := by
  induction sections generalizing state with
  | nil => cases split
  | cons _ _ _ =>
    obtain ⟨atIndex, later⟩ := getElem?_of_drop_eq_cons remaining
    have extended := pending.extend atIndex (Nat.le_refl begin) ordered known
    unfold FindInPage.splitMatch at split
    split at split
    · obtain ⟨processed, done, pendingNext, effect⟩ := extended.process
      grind [pendingNext.moveTo, effect.emptied, effect.matchId, effect.length, effect.sections,
        effect.sectionsIndex]
    · cases split
      grind

/-- Leaving the current section records what is pending there. -/
theorem Pending.enterSection {frontier : Nat} {state : State}
    (pending : Pending frontier state) (newSectionIndex : Nat) :
    ∃ next, enterSection state newSectionIndex = .ok next ∧ Pending frontier next ∧
      next.matches.length = state.matches.length ∧ next.matchId = state.matchId ∧
      next.sections = state.sections ∧
      next.sectionsIndex = max state.sectionsIndex newSectionIndex ∧
      ∀ matchId, recorded next matchId = recorded state matchId := by
  unfold FindInPage.enterSection
  by_cases later : state.sectionsIndex < newSectionIndex
  · obtain ⟨processed, done, pendingNext, effect⟩ := pending.process
    rw [if_pos later, done]
    exact ⟨_, rfl, pendingNext.moveTo effect.emptied _ _, effect.length, effect.matchId,
      effect.sections, (Nat.max_eq_right (Nat.le_of_lt later)).symm, effect.recorded⟩
  · grind

/-- Where the treatment of a match gets to, once its section is known. -/
theorem foundMatch_eq {begin ending newSectionIndex : Nat} {state entered : State}
    (first : findFirstSectionEndsAfter state begin = some newSectionIndex)
    (enteredAt : enterSection { state with «matches» := state.matches ++ [⟨[], none⟩] }
      newSectionIndex = .ok entered) :
    foundMatch begin ending state =
      (splitMatch begin ending (entered.sections.drop entered.sectionsIndex) entered).map
        fun next => { next with matchId := next.matchId + 1 } := by
  have same : findFirstSectionEndsAfter
      { state with «matches» := state.matches ++ [⟨[], none⟩] } begin = some newSectionIndex :=
    first
  unfold foundMatch
  simp only [same, enteredAt]

/-- Between two matches every partial match is pending in the current section, and
the matches are counted. -/
structure Counted (frontier : Nat) (state : State) : Prop where
  pending : Pending frontier state
  counted : state.matchId = state.matches.length

theorem Counted.foundMatch {frontier begin ending : Nat} {state next : State}
    (counted : Counted frontier state) (after : frontier ≤ begin) (ordered : begin ≤ ending)
    (found : foundMatch begin ending state = .ok next) :
    Counted ending next ∧ next.matches.length = state.matches.length + 1 := by
  cases first : findFirstSectionEndsAfter state begin with
  | none =>
    have none : findFirstSectionEndsAfter
        { state with «matches» := state.matches ++ [⟨[], none⟩] } begin = none := first
    simp [FindInPage.foundMatch, none] at found
  | some newSectionIndex =>
    obtain ⟨entered, enteredAt, pending, length, matchId, -⟩ :=
      counted.pending.push.enterSection newSectionIndex
    rw [foundMatch_eq first enteredAt] at found
    have pushedLength : entered.matches.length = state.matches.length + 1 :=
      length.trans (List.length_append ..)
    cases split : splitMatch begin ending (entered.sections.drop entered.sectionsIndex)
        entered with
    | error _ =>
      rw [split] at found
      cases found
    | ok _ =>
      rw [split] at found
      cases found
      have known : entered.matchId < entered.matches.length := by
        simp [matchId, pushedLength, counted.counted]
      obtain ⟨pendingLast, lengthLast, matchIdLast⟩ :=
        (pending.mono after).splitMatch ordered known rfl split
      refine ⟨⟨pendingLast.count _, ?_⟩, lengthLast.trans pushedLength⟩
      grind [counted.counted]

/-! ## Sections that tile the text -/

def Section.interval (within : Section) : Nat × Nat := (within.begin, within.ending)

def PartialMatch.interval (part : PartialMatch) : Nat × Nat := (part.begin, part.ending)

structure Laid (plain : Text) (sections : List Section) : Prop where
  tiled : Tiles 0 plain.length (sections.map Section.interval)
  texts : ∀ within ∈ sections,
    within.node.textContent = slice plain within.begin within.ending

namespace Laid

variable {plain : Text} {sections : List Section}

theorem getElem?_interval {within : Section} (atIndex : sections[index]? = some within) :
    (sections.map Section.interval)[index]? = some within.interval := by
  rw [List.getElem?_map, atIndex]
  rfl

/-- The binary search keeps the sections before `left` ending up to the index and
the one at `right` ending after it. -/
theorem search (laid : Laid plain sections) (index start : Nat) {fuel left right : Nat}
    (enough : right - left ≤ fuel) (ordered : left ≤ right) (inRange : right ≤ sections.length)
    (before : ∀ position within, start ≤ position → position < left →
      sections[position]? = some within → within.ending ≤ index)
    (after : ∀ within, sections[right]? = some within → index < within.ending) :
    ∃ found, findFirstSectionEndsAfter.search sections index fuel left right = some found ∧
      left ≤ found ∧ found ≤ right ∧
      (∀ position within, start ≤ position → position < found →
        sections[position]? = some within → within.ending ≤ index) ∧
      ∀ within, sections[found]? = some within → index < within.ending := by
  induction fuel generalizing left right with
  | zero =>
    have same : left = right := by omega
    subst same
    exact ⟨left, rfl, Nat.le_refl _, Nat.le_refl _, before, after⟩
  | succ _ ih =>
    unfold findFirstSectionEndsAfter.search
    by_cases open_ : left < right
    · have inside : (left + right) / 2 < sections.length := by omega
      rw [if_pos open_, List.getElem?_eq_getElem inside]
      simp only
      split
      · next ends =>
          have beforeMiddle : ∀ position within, start ≤ position →
              position < (left + right) / 2 + 1 →
              sections[position]? = some within → within.ending ≤ index := by
            intro position within _ below atPosition
            have ordered := laid.tiled.ending_mono (Nat.le_of_lt_succ below)
              (getElem?_interval atPosition)
              (getElem?_interval (List.getElem?_eq_getElem inside))
            exact Nat.le_trans ordered ends
          obtain ⟨found, searched, above, below, rest⟩ :=
            ih (by omega) (by omega) inRange beforeMiddle after
          grind
      · next ends =>
          have afterMiddle : ∀ within, sections[(left + right) / 2]? = some within →
              index < within.ending := by
            grind
          obtain ⟨found, searched, above, below, rest⟩ :=
            ih (by omega) (by omega) (by omega) before afterMiddle
          grind
    · have same : left = right := by omega
      subst same
      grind

/-- The search finds the section an index of the text lies in. -/
theorem findFirst (laid : Laid plain state.sections)
    (atIndex : state.sections[state.sectionsIndex]? = some current)
    (reached : current.begin ≤ index) (inside : index < plain.length) :
    ∃ found within, findFirstSectionEndsAfter state index = some found ∧
      state.sectionsIndex ≤ found ∧ state.sections[found]? = some within ∧
      within.begin ≤ index ∧ index < within.ending := by
  have inRange : state.sectionsIndex < state.sections.length :=
    (List.getElem?_eq_some_iff.mp atIndex).1
  obtain ⟨found, searched, above, below, before, after⟩ :=
    laid.search index state.sectionsIndex (Nat.le_refl _) (Nat.le_of_lt inRange) (Nat.le_refl _)
      (fun position _ above below => absurd above (Nat.not_le_of_lt below))
      (fun within beyond => by simp at beyond)
  have exists_ : found < state.sections.length := by
    apply Nat.lt_of_not_le
    intro beyond
    have lastIn : state.sections.length - 1 < state.sections.length := by omega
    have atLast := List.getElem?_eq_getElem lastIn
    have ends := laid.tiled.ending_last (getElem?_interval atLast)
      (by rw [List.length_map]; omega)
    have endsBefore := before _ _ (by omega) (by omega) atLast
    change state.sections[state.sections.length - 1].ending = plain.length at ends
    omega
  have atFound := List.getElem?_eq_getElem exists_
  refine ⟨found, _, searched, above, atFound, ?_, after _ atFound⟩
  rcases Nat.lt_or_eq_of_le above with later | rfl
  · obtain ⟨previous, rfl⟩ := Nat.exists_eq_succ_of_ne_zero (Nat.ne_of_gt (Nat.zero_lt_of_lt later))
    have previousIn : previous < state.sections.length := by omega
    have atPrevious := List.getElem?_eq_getElem previousIn
    have follows := laid.tiled.begin_succ (getElem?_interval atPrevious)
      (getElem?_interval atFound)
    have ends := before previous _ (by omega) (Nat.lt_succ_self _) atPrevious
    exact Nat.le_trans (Nat.le_of_eq follows) ends
  · grind

end Laid

/-! ## Splitting a match -/

/-- A part added to the pending ones belongs to its match only. -/
theorem recorded_extend (state : State) (begin ending matchId : Nat) :
    recorded { state with
        partialMatches := state.partialMatches ++ [⟨state.matchId, begin, ending⟩] } matchId =
      recorded state matchId ++
        if matchId = state.matchId then [⟨state.matchId, begin, ending⟩] else [] := by
  unfold recorded
  grind

def extended (begin ending : Nat) (current : Section) (state : State) : State :=
  { state with
    partialMatches := state.partialMatches ++
      [⟨state.matchId, max current.begin begin, min current.ending ending⟩] }

theorem tiles_extended (starts : max current.begin begin ≤ min current.ending ending)
    (tiles : Tiles begin (max current.begin begin)
      ((recorded state state.matchId).map PartialMatch.interval)) :
    Tiles begin (min current.ending ending)
      ((recorded (extended begin ending current state) state.matchId).map
        PartialMatch.interval) := by
  simpa [PartialMatch.interval, recorded, extended] using tiles.snoc starts

theorem recorded_extended_of_ne (begin ending : Nat) (current : Section) {other : Nat}
    (different : other ≠ state.matchId) :
    recorded (extended begin ending current state) other = recorded state other := by
  simp [extended, recorded_extend, if_neg different]

structure SplitTo (begin ending : Nat) (state next : State) : Prop where
  sections : next.sections = state.sections
  current : ∃ within, next.sections[next.sectionsIndex]? = some within ∧ within.begin ≤ ending
  tiles : Tiles begin ending ((recorded next state.matchId).map PartialMatch.interval)
  others : ∀ other, other ≠ state.matchId → recorded next other = recorded state other

theorem splitMatch_stops (stops : ¬current.ending < ending)
    (atIndex : state.sections[state.sectionsIndex]? = some current)
    (starts : max current.begin begin ≤ min current.ending ending)
    (tiles : Tiles begin (max current.begin begin)
      ((recorded state state.matchId).map PartialMatch.interval)) :
    ∃ next, splitMatch begin ending (current :: rest) state = .ok next ∧
      SplitTo begin ending state next := by
  have reached := tiles_extended starts tiles
  have atEnd : min current.ending ending = ending := by omega
  refine ⟨extended begin ending current state, ?_, rfl, ⟨current, atIndex, by omega⟩, ?_, ?_⟩
  · simp [splitMatch, extended, stops]
  · rw [atEnd] at reached
    exact reached
  · grind [recorded_extended_of_ne]

/-- A match is split along the sections from the current one on. -/
theorem Laid.splitMatch {plain : Text} {begin ending : Nat} {current : Section}
    {rest : List Section} {state : State} (laid : Laid plain state.sections)
    (pending : Pending begin state) (known : state.matchId < state.matches.length)
    (remaining : state.sections.drop state.sectionsIndex = current :: rest)
    (inside : ending ≤ plain.length)
    (starts : max current.begin begin ≤ min current.ending ending)
    (tiles : Tiles begin (max current.begin begin)
      ((recorded state state.matchId).map PartialMatch.interval)) :
    ∃ next, splitMatch begin ending (current :: rest) state = .ok next ∧
      SplitTo begin ending state next := by
  induction rest generalizing current state with
  | nil =>
    obtain ⟨atIndex, later⟩ := getElem?_of_drop_eq_cons remaining
    have isLast : state.sections.length = state.sectionsIndex + 1 := by
      grind [List.length_nil]
    have ends := laid.tiled.ending_last (getElem?_interval atIndex)
      (by rw [List.length_map]; exact isLast)
    change current.ending = plain.length at ends
    exact splitMatch_stops (by omega) atIndex starts tiles
  | cons following rest ih =>
    obtain ⟨atIndex, later⟩ := getElem?_of_drop_eq_cons remaining
    by_cases goesOn : current.ending < ending
    · obtain ⟨atNext, -⟩ := getElem?_of_drop_eq_cons later
      have followingBegin := laid.tiled.begin_succ (getElem?_interval atIndex)
        (getElem?_interval atNext)
      have followingOrdered := (laid.tiled.bounds (List.mem_map_of_mem
        (List.mem_of_getElem? atNext))).2.1
      change following.begin = current.ending at followingBegin
      change following.begin ≤ following.ending at followingOrdered
      have ordered : begin ≤ ending := by omega
      have startsNext : max following.begin begin = min current.ending ending := by omega
      have reached := tiles_extended starts tiles
      obtain ⟨processed, done, pendingNext, effect⟩ :=
        (pending.extend atIndex (Nat.le_refl begin) ordered known).process
      have laidNext : Laid plain processed.sections := effect.sections ▸ laid
      have knownNext : processed.matchId < processed.matches.length := by
        rw [effect.matchId, effect.length]
        exact known
      have laterNext : processed.sections.drop (processed.sectionsIndex + 1) =
          following :: rest := by
        rw [effect.sections, effect.sectionsIndex]
        exact later
      have tilesNext : Tiles begin (max following.begin begin)
          ((recorded processed processed.matchId).map PartialMatch.interval) := by
        rw [startsNext, effect.recorded, effect.matchId]
        exact reached
      obtain ⟨next, split, splitTo⟩ : ∃ next, FindInPage.splitMatch begin ending
          (following :: rest)
          { processed with sectionsIndex := processed.sectionsIndex + 1 } = .ok next ∧ _ :=
        ih laidNext (pendingNext.moveTo effect.emptied begin _) knownNext laterNext (by omega)
          tilesNext
      have unfolded : FindInPage.splitMatch begin ending (current :: following :: rest) state =
          FindInPage.splitMatch begin ending (following :: rest)
            { processed with sectionsIndex := processed.sectionsIndex + 1 } := by
        simp [FindInPage.splitMatch, goesOn, done]
      have sameId : ({ processed with
          sectionsIndex := processed.sectionsIndex + 1 } : State).matchId = state.matchId :=
        effect.matchId
      refine ⟨next, unfolded.trans split, splitTo.sections.trans effect.sections,
        splitTo.current, sameId ▸ splitTo.tiles, ?_⟩
      intro other different
      exact (splitTo.others other (sameId ▸ different)).trans
        ((effect.recorded other).trans (recorded_extended_of_ne begin ending current different))
    · exact splitMatch_stops goesOn atIndex starts tiles

theorem placedAt_of_length_le {«matches» : List Match} (beyond : «matches».length ≤ matchId) :
    placedAt «matches» matchId = [] := by
  simp [placedAt, beyond]

theorem Pending.recorded_of_length_le (pending : Pending frontier state)
    (beyond : state.matches.length ≤ matchId) : recorded state matchId = [] := by
  unfold recorded
  rw [placedAt_of_length_le beyond, List.map_nil, List.nil_append, List.filter_eq_nil_iff]
  intro part mem
  have known := pending.known part mem
  simp only [decide_eq_true_eq]
  omega

theorem recorded_push (state : State) (matchId : Nat) :
    recorded { state with «matches» := state.matches ++ [⟨[], none⟩] } matchId =
      recorded state matchId := by
  unfold recorded
  rw [Pending.placedAt_push]

/-- Between two matches in a text that the sections tile. -/
structure Splitting (plain : Text) (frontier : Nat) (state : State) : Prop
    extends Counted frontier state where
  laid : Laid plain state.sections
  cursor : frontier < plain.length → ∃ within,
    state.sections[state.sectionsIndex]? = some within ∧ within.begin ≤ frontier

theorem Splitting.foundMatch {plain : Text} {frontier begin ending : Nat} {state : State}
    (splitting : Splitting plain frontier state) (after : frontier ≤ begin)
    (nonempty : begin < ending) (inside : ending ≤ plain.length) :
    ∃ next, foundMatch begin ending state = .ok next ∧ Splitting plain ending next ∧
      next.sections = state.sections ∧ next.matches.length = state.matches.length + 1 ∧
      Tiles begin ending
        ((recorded next state.matches.length).map PartialMatch.interval) ∧
      ∀ other < state.matches.length, recorded next other = recorded state other := by
  obtain ⟨current, atIndex, reached⟩ := splitting.cursor (by omega)
  obtain ⟨newSectionIndex, within, first, later, atNew, beginsBefore, endsAfter⟩ :=
    splitting.laid.findFirst atIndex (Nat.le_trans reached after) (by omega)
  obtain ⟨entered, enteredAt, pending, length, matchId, sections, sectionsIndex, same⟩ :=
    splitting.pending.push.enterSection newSectionIndex
  have pushedLength : entered.matches.length = state.matches.length + 1 :=
    length.trans (List.length_append ..)
  have ownId : entered.matchId = state.matches.length := matchId.trans splitting.counted
  have sameRecorded : ∀ other, recorded entered other = recorded state other :=
    fun other => (same other).trans (recorded_push state other)
  have newIn : newSectionIndex < state.sections.length :=
    (List.getElem?_eq_some_iff.mp atNew).1
  have remaining : entered.sections.drop entered.sectionsIndex =
      within :: state.sections.drop (newSectionIndex + 1) := by
    grind [List.drop_eq_getElem_cons]
  have starts : max within.begin begin ≤ min within.ending ending := by omega
  have startsAt : max within.begin begin = begin := by omega
  have none : Tiles begin (max within.begin begin)
      ((recorded entered entered.matchId).map PartialMatch.interval) := by
    rw [sameRecorded, ownId,
      splitting.pending.recorded_of_length_le (Nat.le_refl _), startsAt]
    exact .done begin
  have laid : Laid plain entered.sections := sections ▸ splitting.laid
  have known : entered.matchId < entered.matches.length := by omega
  obtain ⟨last, split, splitTo⟩ :=
    laid.splitMatch (pending.mono after) known remaining inside starts none
  have found : FindInPage.foundMatch begin ending state =
      .ok { last with matchId := last.matchId + 1 } := by
    rw [foundMatch_eq first enteredAt, remaining, split]
    rfl
  obtain ⟨counted, lengthNext⟩ :=
    splitting.toCounted.foundMatch after (Nat.le_of_lt nonempty) found
  have sameSections : last.sections = state.sections := splitTo.sections.trans sections
  refine ⟨_, found, ⟨counted, ?_, fun _ => splitTo.current⟩, sameSections, lengthNext, ?_, ?_⟩
  · grind
  · exact ownId ▸ splitTo.tiles
  · intro other before
    exact (splitTo.others other (by omega)).trans (sameRecorded other)

/-! ## The whole matching loop -/

/-- What the matching loop has made of the occurrences at `begins`. -/
structure SplitAll (begins : List Nat) (length : Nat) (state last : State) : Prop where
  pending : ∃ frontier, Pending frontier last
  emptied : last.partialMatches = []
  sections : last.sections = state.sections
  count : last.matches.length = state.matches.length + begins.length
  tiles : ∀ {index begin}, begins[index]? = some begin → Tiles begin (begin + length)
    ((recorded last (state.matches.length + index)).map PartialMatch.interval)
  others : ∀ other < state.matches.length, recorded last other = recorded state other

theorem Pending.finishMatching {frontier : Nat} {state : State}
    (pending : Pending frontier state) :
    ∃ last, finishMatching state = .ok last ∧ ∀ length, SplitAll [] length state last := by
  obtain ⟨_, done, pendingNext, effect⟩ := pending.process
  unfold FindInPage.finishMatching
  rw [done]
  refine ⟨_, rfl, fun length =>
    ⟨⟨frontier, ?_⟩, effect.emptied, effect.sections, effect.length, nofun, ?_⟩⟩
  · exact ⟨pendingNext.whole, pendingNext.current, pendingNext.ordered, pendingNext.before,
      pendingNext.known, pendingNext.wraps, pendingNext.replaced⟩
  · exact fun other _ => effect.recorded other

theorem Splitting.advance {plain : Text} {frontier : Nat} {state : State}
    (splitting : Splitting plain frontier state) (regex : RegExp) (begin : Nat) :
    Splitting plain frontier (advance regex begin state) :=
  ⟨⟨splitting.pending.advance regex begin, splitting.counted⟩, splitting.laid, splitting.cursor⟩

/-- In a text that the sections tile the matching loop splits every occurrence. -/
theorem Splitting.matchAll {casing : Casing} {plain : Text} {regex : RegExp} {begins : List Nat}
    (splitting : Splitting plain frontier state) (isRegex : state.regex = some regex)
    (nonempty : regex.source ≠ []) (after : frontier ≤ regex.lastIndex)
    (sameLength : state.allText.length = plain.length)
    (occurs : occurrences casing regex.source state.allText regex.lastIndex = begins) :
    ∃ last, matchAll casing state = .ok last ∧
      SplitAll begins regex.source.length state last := by
  induction begins generalizing frontier state regex with
  | nil =>
    have none : regex.exec casing state.allText = none := by
      cases executed : regex.exec casing state.allText with
      | none => rfl
      | some _ =>
        simp [occurrences_of_some nonempty executed] at occurs
    grind [matchAll_of_none, splitting.pending.finishMatching]
  | cons begin _ ih =>
    cases executed : regex.exec casing state.allText with
    | none =>
      rw [occurrences_of_none executed] at occurs
      cases occurs
    | some _ =>
      rw [occurrences_of_some nonempty executed] at occurs
      cases occurs
      have positive := List.length_pos_iff_ne_nil.mpr nonempty
      have above := (RegExp.exec_eq_some executed).1
      have inside := (RegExp.exec_bounds nonempty executed).2
      have nonemptyMatch : begin < begin + regex.source.length := by omega
      obtain ⟨next, found, splittingNext, sections, length, tiles, others⟩ :=
        (splitting.advance regex begin).foundMatch (Nat.le_trans after above)
          nonemptyMatch (by omega)
      have same := sameSearch_foundMatch found
      obtain ⟨last, matched, splitAll⟩ := ih splittingNext same.regex nonempty
        (Nat.le_refl _) ((congrArg List.length same.allText).trans sameLength)
        (congrArg (occurrences casing regex.source · (begin + regex.source.length))
          same.allText)
      rw [matchAll_of_found nonempty isRegex executed found] at matched
      have pushedLength : next.matches.length = state.matches.length + 1 := length
      refine ⟨last, matched, splitAll.pending, splitAll.emptied,
        splitAll.sections.trans sections, ?_, ?_, ?_⟩
      · rw [splitAll.count, pushedLength, List.length_cons]
        omega
      · intro index found atIndex
        cases index with
        | zero =>
          cases atIndex
          rw [Nat.add_zero, splitAll.others _ (by omega)]
          exact tiles
        | succ _ =>
          have later := splitAll.tiles atIndex
          grind
      · intro other before
        exact (splitAll.others other (by omega)).trans (others other before)

end ChromiumIos.FindInPage
