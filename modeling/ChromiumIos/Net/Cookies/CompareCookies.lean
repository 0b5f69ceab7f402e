import ChromiumIos.Lib.ComparisonSort
import ChromiumIos.Net.Cookies.CookieCreationTimeManager

/-!
# The order of cookies

Cookies are sorted by decreasing path length and then by their creation times.  The comparator
asks the manager for the times, which records one for a cookie that has none; a recorded time
is used by one cookie and stays while the sort goes on, so that all the answers agree with the
times recorded when it is done.
-/

namespace ChromiumIos

open Lib

namespace NSHTTPCookie

/-- The length of a string counts its UTF-16 units. -/
def pathLength (cookie : NSHTTPCookie) : Nat :=
  (cookie.path.toList.map fun character => if character.val < 0x10000 then 1 else 2).sum

end NSHTTPCookie

namespace CookieCreationTimeManager

variable {times : CookieTimes} {started manager after : CookieCreationTimeManager}
variable {cookies : List NSHTTPCookie} {cookie first second : NSHTTPCookie} {time : Time}

instance : DecidableLT Time := fun first second => Int.decLt first.1 second.1

def compareCookies (times : CookieTimes) (first second : NSHTTPCookie)
    (manager : CookieCreationTimeManager) : Checked (Ordering × CookieCreationTimeManager) :=
  if first.pathLength < second.pathLength then some (.gt, manager)
  else if second.pathLength < first.pathLength then some (.lt, manager)
  else do
    let (createdFirst, manager) ← manager.getCreationTime times first
    let (createdSecond, manager) ← manager.getCreationTime times second
    if createdFirst < createdSecond then return (.lt, manager)
    else if createdFirst > createdSecond then return (.gt, manager)
    else return (.eq, manager)

def sortedArrayUsingFunction (times : CookieTimes) (sort : ComparisonSort NSHTTPCookie)
    (cookies : List NSHTTPCookie) (manager : CookieCreationTimeManager) :
    Checked (List NSHTTPCookie × List (Comparison NSHTTPCookie) × CookieCreationTimeManager) :=
  (sort.tree cookies).run (compareCookies times) manager

/-- The order by decreasing path length and then increasing creation time. -/
def Before (manager : CookieCreationTimeManager) (first second : NSHTTPCookie) : Prop :=
  second.pathLength < first.pathLength ∨
    first.pathLength = second.pathLength ∧
      ∃ createdFirst createdSecond,
        manager.creationTimes (getCookieUniqueID first) = some createdFirst ∧
        manager.creationTimes (getCookieUniqueID second) = some createdSecond ∧
        createdFirst < createdSecond

/-- The times in use leave room for those of the cookies that have none. -/
def HasRoom (times : CookieTimes) (manager : CookieCreationTimeManager)
    (cookies : List NSHTTPCookie) : Prop :=
  ∀ cookie ∈ cookies, manager.creationTimes (getCookieUniqueID cookie) = none →
    ∃ native, getCreationTimeFromObject times cookie = some native ∧
      native.toInternalValue + manager.uniqueTimes.elements.length + cookies.length < 2 ^ 63

/-! ## Times that are free -/

theorem exists_unused (used : List Time) (room : time.toInternalValue + used.length < 2 ^ 63) :
    ∃ free, time ≤ free ∧ free ∉ used := by
  by_contra none
  push Not at none
  have values : (List.range (used.length + 1)).map (fun steps : Nat => time.1 + (steps : Int)) ⊆
      used.map Subtype.val := by
    intro value mem
    obtain ⟨steps, inRange, rfl⟩ := List.mem_map.mp mem
    have few := List.mem_range.mp inRange
    have fits : -2 ^ 63 ≤ time.1 + (steps : Int) ∧ time.1 + (steps : Int) < 2 ^ 63 := by
      unfold Time.toInternalValue at room
      omega
    have later : time ≤ ⟨time.1 + steps, fits⟩ := by
      change time.1 ≤ time.1 + (steps : Int)
      omega
    exact List.mem_map.mpr ⟨_, none ⟨_, fits⟩ later, rfl⟩
  have distinct : ((List.range (used.length + 1)).map
      fun steps : Nat => time.1 + (steps : Int)).Nodup := by
    refine List.nodup_range.map fun steps other same => ?_
    omega
  have length := (List.subperm_of_subset distinct values).length_le
  grind

/-- A sort in progress: the times recorded before are kept, and new ones are those of cookies
that are sorted. -/
structure Sorting (started : CookieCreationTimeManager) (cookies : List NSHTTPCookie)
    (manager : CookieCreationTimeManager) : Prop extends Consistent manager where
  kept : ∀ {uniqueID time}, started.creationTimes uniqueID = some time →
    manager.creationTimes uniqueID = some time
  others : ∀ {uniqueID}, (∀ cookie ∈ cookies, getCookieUniqueID cookie ≠ uniqueID) →
    manager.creationTimes uniqueID = started.creationTimes uniqueID

theorem Sorting.start (consistent : Consistent started) (cookies : List NSHTTPCookie) :
    Sorting started cookies started :=
  ⟨consistent, id, fun _ => rfl⟩

/-- The times in use are old ones or those of the cookies that are sorted. -/
theorem Sorting.mem_used (sorting : Sorting started cookies manager)
    (consistent : Consistent started) (used : time ∈ manager.uniqueTimes) :
    time ∈ started.uniqueTimes.elements ++
      cookies.filterMap fun cookie => manager.creationTimes (getCookieUniqueID cookie) := by
  obtain ⟨uniqueID, has⟩ := (sorting.used time).mp used
  by_cases sorted : ∃ cookie ∈ cookies, getCookieUniqueID cookie = uniqueID
  · obtain ⟨cookie, mem, rfl⟩ := sorted
    exact List.mem_append_right _ (List.mem_filterMap.mpr ⟨cookie, mem, has⟩)
  · rw [sorting.others fun cookie mem same => sorted ⟨cookie, mem, same⟩] at has
    exact List.mem_append_left _ ((consistent.used time).mpr ⟨uniqueID, has⟩)

/-- A time that is made unique while the cookies are sorted is found. -/
theorem Sorting.makeUniqueCreationTime (sorting : Sorting started cookies manager)
    (consistent : Consistent started)
    (room : time.toInternalValue + started.uniqueTimes.elements.length + cookies.length <
      2 ^ 63) : ∃ free, manager.makeUniqueCreationTime time = some free := by
  rcases makeUniqueCreationTime_spec manager time with ⟨free, made, -⟩ | ⟨-, none⟩
  · exact ⟨free, made⟩
  · have few : (cookies.filterMap fun cookie =>
        manager.creationTimes (getCookieUniqueID cookie)).length ≤ cookies.length :=
      List.length_filterMap_le _ _
    have fits : time.toInternalValue + (started.uniqueTimes.elements ++ cookies.filterMap
        fun cookie => manager.creationTimes (getCookieUniqueID cookie)).length < 2 ^ 63 := by
      rw [List.length_append]
      omega
    obtain ⟨free, later, unused⟩ := exists_unused _ fits
    have mem : free ∈ Unused {used | used ∈ manager.uniqueTimes} time :=
      ⟨later, fun used => unused (sorting.mem_used consistent used)⟩
    rw [none] at mem
    cases mem

/-- The time of a cookie that is sorted can be got, and it is recorded from then on. -/
theorem Sorting.getCreationTime (sorting : Sorting started cookies manager)
    (consistent : Consistent started) (room : HasRoom times started cookies)
    (mem : cookie ∈ cookies) :
    ∃ time after, manager.getCreationTime times cookie = some (time, after) ∧
      Sorting started cookies after ∧
      after.creationTimes (getCookieUniqueID cookie) = some time ∧
      ∀ {uniqueID time}, manager.creationTimes uniqueID = some time →
        after.creationTimes uniqueID = some time := by
  cases has : manager.creationTimes (getCookieUniqueID cookie) with
  | some time =>
    exact ⟨time, manager, getCreationTime_of_known has, sorting, has, id⟩
  | none =>
    have unknown : started.creationTimes (getCookieUniqueID cookie) = none := by
      cases known : started.creationTimes (getCookieUniqueID cookie) <;> grind [sorting.kept]
    obtain ⟨native, isNative, fits⟩ := room cookie mem unknown
    obtain ⟨free, made⟩ := sorting.makeUniqueCreationTime consistent fits
    obtain ⟨set, isSet, -⟩ :=
      sorting.setCreationTime cookie (notMem_of_makeUniqueCreationTime made)
    have got : manager.getCreationTime times cookie = some (free, set) := by
      simp [CookieCreationTimeManager.getCreationTime, has, isNative, made, isSet]
    obtain ⟨keptConsistent, changed⟩ := sorting.toConsistent.getCreationTime got
    have later : ∀ {uniqueID time}, manager.creationTimes uniqueID = some time →
        set.creationTimes uniqueID = some time := by
      intro uniqueID time had
      have differs : uniqueID ≠ getCookieUniqueID cookie := by
        grind
      simp [changed, differs, had]
    refine ⟨free, set, got, ⟨keptConsistent, fun known => later (sorting.kept known), ?_⟩, ?_,
      later⟩
    · intro uniqueID foreign
      rw [changed, Function.update_of_ne (foreign cookie mem).symm]
      exact sorting.others foreign
    · rw [changed, Function.update_self]

/-! ## Answers -/

def Settled (manager : CookieCreationTimeManager) (comparison : Comparison NSHTTPCookie) : Prop :=
  comparison.first.pathLength < comparison.second.pathLength ∧ comparison.answer = .gt ∨
  comparison.second.pathLength < comparison.first.pathLength ∧ comparison.answer = .lt ∨
  comparison.first.pathLength = comparison.second.pathLength ∧
    ∃ createdFirst createdSecond,
      manager.creationTimes (getCookieUniqueID comparison.first) = some createdFirst ∧
      manager.creationTimes (getCookieUniqueID comparison.second) = some createdSecond ∧
      comparison.answer = cmp createdFirst createdSecond

/-- The comparator answers on cookies that are sorted, and its answers are settled. -/
theorem Sorting.compareCookies (sorting : Sorting started cookies manager)
    (consistent : Consistent started) (room : HasRoom times started cookies)
    (firstMem : first ∈ cookies) (secondMem : second ∈ cookies) :
    ∃ answer after,
      CookieCreationTimeManager.compareCookies times first second manager =
        some (answer, after) ∧
      Sorting started cookies after ∧ Settled after ⟨first, second, answer⟩ ∧
      ∀ comparison, Settled manager comparison → Settled after comparison := by
  unfold CookieCreationTimeManager.compareCookies
  split
  case isTrue shorter => grind [Settled]
  case isFalse notShorter =>
    split
    case isTrue longer => grind [Settled]
    case isFalse notLonger =>
      have same : first.pathLength = second.pathLength :=
        Nat.le_antisymm (Nat.not_lt.mp notLonger) (Nat.not_lt.mp notShorter)
      obtain ⟨createdFirst, middle, gotFirst, middleSorting, hasFirst, keptFirst⟩ :=
        sorting.getCreationTime consistent room firstMem
      obtain ⟨createdSecond, after, gotSecond, afterSorting, hasSecond, keptSecond⟩ :=
        middleSorting.getCreationTime consistent room secondMem
      refine ⟨cmp createdFirst createdSecond, after, ?_, afterSorting,
        .inr (by simp [same, keptSecond, hasFirst, hasSecond]), ?_⟩
      · rw [gotFirst]
        change (middle.getCreationTime times second).bind _ = _
        rw [gotSecond]
        change (if createdFirst < createdSecond then _ else _) = _
        unfold cmp cmpUsing
        split_ifs <;> rfl
      · grind [Settled]

/-! ## Orders that agree with the recorded times -/

def Ranks (manager : CookieCreationTimeManager) (rank : NSHTTPCookie → WithBot (WithTop Time)) :
    Prop :=
  ∀ {cookie time}, manager.creationTimes (getCookieUniqueID cookie) = some time →
    rank cookie = ((time : WithTop Time) : WithBot (WithTop Time))

def sortKey (rank : NSHTTPCookie → WithBot (WithTop Time)) (cookie : NSHTTPCookie) :
    Natᵒᵈ ×ₗ WithBot (WithTop Time) :=
  toLex (OrderDual.toDual cookie.pathLength, rank cookie)

variable {comparison : Comparison NSHTTPCookie} {rank : NSHTTPCookie → WithBot (WithTop Time)}

theorem sortKey_lt_iff :
    sortKey rank first < sortKey rank second ↔
      second.pathLength < first.pathLength ∨
        first.pathLength = second.pathLength ∧ rank first < rank second := by
  simp [sortKey, Prod.Lex.toLex_lt_toLex]

/-- A settled answer is that of every order that agrees with the recorded times. -/
theorem compareBy_sortKey (ranks : Ranks manager rank) (settled : Settled manager comparison) :
    compareBy (sortKey rank) comparison.first comparison.second = comparison.answer := by
  unfold compareBy
  rcases settled with ⟨shorter, answer⟩ | ⟨longer, answer⟩ | ⟨same, createdFirst, createdSecond,
    hasFirst, hasSecond, answer⟩
  · rw [answer]
    exact (cmp_eq_gt_iff _ _).mpr (sortKey_lt_iff.mpr (.inl shorter))
  · rw [answer]
    exact (cmp_eq_lt_iff _ _).mpr (sortKey_lt_iff.mpr (.inl longer))
  · rw [answer]
    rcases lt_trichotomy createdFirst createdSecond with less | equal | greater
    · rw [(cmp_eq_lt_iff _ _).mpr less]
      refine (cmp_eq_lt_iff _ _).mpr (sortKey_lt_iff.mpr (.inr ⟨same, ?_⟩))
      simp [ranks hasFirst, ranks hasSecond, less]
    · simp [sortKey, same, ranks hasFirst, ranks hasSecond, equal]
    · rw [(cmp_eq_gt_iff _ _).mpr greater]
      refine (cmp_eq_gt_iff _ _).mpr (sortKey_lt_iff.mpr (.inr ⟨same.symm, ?_⟩))
      simp [ranks hasFirst, ranks hasSecond, greater]

def completedRank (manager : CookieCreationTimeManager) (marked : NSHTTPCookie)
    (atMarked elsewhere : WithBot (WithTop Time)) (cookie : NSHTTPCookie) :
    WithBot (WithTop Time) :=
  match manager.creationTimes (getCookieUniqueID cookie) with
  | some time => ((time : WithTop Time) : WithBot (WithTop Time))
  | none => if getCookieUniqueID cookie = getCookieUniqueID marked then atMarked else elsewhere

theorem ranks_completedRank (marked : NSHTTPCookie) (atMarked elsewhere : WithBot (WithTop Time)) :
    Ranks manager (completedRank manager marked atMarked elsewhere) := by
  intro cookie time has
  unfold completedRank
  rw [has]

/-- Cookies of one path length that are in order for all completions have times recorded, and
the times are in order. -/
theorem before_of_completions (consistent : Consistent manager)
    (different : getCookieUniqueID first ≠ getCookieUniqueID second)
    (ordered : ∀ rank : NSHTTPCookie → WithBot (WithTop Time), Ranks manager rank →
      sortKey rank first ≤ sortKey rank second) : Before manager first second := by
  have notLonger : ∀ rank, Ranks manager rank → second.pathLength < first.pathLength ∨
      first.pathLength = second.pathLength ∧ rank first ≤ rank second := by
    simpa [sortKey, Prod.Lex.toLex_le_toLex] using ordered
  rcases notLonger _ (ranks_completedRank first ⊤ ⊥) with longer | ⟨same, firstLast⟩
  · exact .inl longer
  · have secondFirst := ((notLonger _ (ranks_completedRank second ⊥ ⊤)).resolve_left
      (by omega)).2
    unfold completedRank at firstLast secondFirst
    cases hasSecond : manager.creationTimes (getCookieUniqueID second) with
    | none =>
      cases hasFirst : manager.creationTimes (getCookieUniqueID first) with
      | none =>
        simp [hasFirst, hasSecond, if_neg different.symm] at firstLast
      | some _ =>
        simp [hasFirst, hasSecond] at secondFirst
    | some _ =>
      cases hasFirst : manager.creationTimes (getCookieUniqueID first) with
      | none =>
        simp [hasFirst, hasSecond] at firstLast
      | some _ =>
        rw [hasFirst, hasSecond] at firstLast
        grind [Before, WithBot.coe_le_coe, WithTop.coe_le_coe, consistent.distinct]

theorem Before.asymm (before : Before manager first second) : ¬ Before manager second first := by
  grind [Before]

theorem Before.trans {third : NSHTTPCookie} (before : Before manager first second)
    (after : Before manager second third) : Before manager first third := by
  grind [Before]

theorem before_iff_of_recorded {createdFirst createdSecond : Time}
    (same : first.pathLength = second.pathLength)
    (hasFirst : manager.creationTimes (getCookieUniqueID first) = some createdFirst)
    (hasSecond : manager.creationTimes (getCookieUniqueID second) = some createdSecond) :
    Before manager first second ↔ createdFirst < createdSecond := by
  grind [Before]

/-- A settled answer about two cookies tells which of them is before the other. -/
theorem settled_iff (consistent : Consistent manager) (settled : Settled manager comparison)
    (different : getCookieUniqueID comparison.first ≠ getCookieUniqueID comparison.second) :
    (comparison.answer = .lt ↔ Before manager comparison.first comparison.second) ∧
      (comparison.answer = .gt ↔ Before manager comparison.second comparison.first) ∧
      comparison.answer ≠ .eq := by
  rcases settled with ⟨shorter, answer⟩ | ⟨longer, answer⟩ | ⟨same, createdFirst, createdSecond,
    hasFirst, hasSecond, answer⟩
  · rw [answer]
    grind [Before]
  · rw [answer]
    grind [Before]
  · have differs : createdFirst ≠ createdSecond := by
      grind [consistent.distinct]
    simp [answer, before_iff_of_recorded same hasFirst hasSecond,
      before_iff_of_recorded same.symm hasSecond hasFirst, differs]

/-- What a sort of cookies leaves: the cookies in the one order by decreasing path length and
then increasing recorded time, with the times that were recorded before. -/
structure Sorted (started : CookieCreationTimeManager) (cookies sorted : List NSHTTPCookie)
    (answers : List (Comparison NSHTTPCookie)) (manager : CookieCreationTimeManager) : Prop where
  perm : sorted.Perm cookies
  ordered : sorted.Pairwise (Before manager)
  unique : ∀ other : List NSHTTPCookie, other.Perm cookies → other.Pairwise (Before manager) →
    other = sorted
  asymm : ∀ {first second}, Before manager first second → ¬ Before manager second first
  trans : ∀ {first second third}, Before manager first second → Before manager second third →
    Before manager first third
  total : ∀ first ∈ cookies, ∀ second ∈ cookies,
    getCookieUniqueID first ≠ getCookieUniqueID second →
    Before manager first second ∨ Before manager second first
  /-- All the answers of the comparator are those of this order. -/
  answered : ∀ comparison ∈ answers,
    getCookieUniqueID comparison.first ≠ getCookieUniqueID comparison.second →
    (comparison.answer = .lt ↔ Before manager comparison.first comparison.second) ∧
      (comparison.answer = .gt ↔ Before manager comparison.second comparison.first) ∧
      comparison.answer ≠ .eq
  kept : ∀ {uniqueID time}, started.creationTimes uniqueID = some time →
    manager.creationTimes uniqueID = some time
  distinct : ∀ {uniqueID other time}, manager.creationTimes uniqueID = some time →
    manager.creationTimes other = some time → uniqueID = other

/--
Sorting different cookies returns them in the one order by decreasing path length and then
increasing creation time, whatever sort by comparisons the system uses and whichever of the
cookies had a time before; each answer of the comparator on the way is that of the same order.
-/
theorem sortedArrayUsingFunction_spec (times : CookieTimes) {log : List Call}
    (run : Runs (step times) Accepts initial log started) (sort : ComparisonSort NSHTTPCookie)
    (cookies : List NSHTTPCookie)
    (different : cookies.Pairwise fun first second =>
      getCookieUniqueID first ≠ getCookieUniqueID second)
    (room : HasRoom times started cookies) :
    ∃ sorted answers after,
      sortedArrayUsingFunction times sort cookies started = some (sorted, answers, after) ∧
        Sorted started cookies sorted answers after := by
  have consistent := run_consistent run consistent_initial
  obtain ⟨sorted, answers, after, ran, sorting, settled, -⟩ :
      ∃ sorted answers after, (sort.tree cookies).run (compareCookies times) started =
          some (sorted, answers, after) ∧
        Sorting started cookies after ∧ (∀ comparison ∈ answers, Settled after comparison) ∧
        ∀ comparison, Settled started comparison → Settled after comparison :=
    Comparisons.run_spec (sort.within cookies) (Sorting.start consistent cookies)
      fun firstMem secondMem sorting => sorting.compareCookies consistent room firstMem secondMem
  have evaluated : ∀ rank, Ranks after rank →
      (sort.tree cookies).evaluate (compareBy (sortKey rank)) = sorted := by
    grind [Comparisons.evaluate_eq_of_run, compareBy_sortKey]
  have perm : sorted.Perm cookies := by
    simp [← evaluated _ (ranks_completedRank ⟨"", "", "", none⟩ ⊤ ⊥), sort.perm]
  have differ : sorted.Pairwise fun first second =>
      getCookieUniqueID first ≠ getCookieUniqueID second :=
    (perm.pairwise_iff fun differs => differs.symm).mpr different
  have ordered : sorted.Pairwise (Before after) := by
    rw [List.pairwise_iff_forall_sublist] at differ ⊢
    intro first second pair
    refine before_of_completions sorting.toConsistent (differ pair) fun rank ranks => ?_
    have inOrder := sort.sorted (sortKey rank) cookies
    grind
  refine ⟨sorted, answers, after, ran, perm, ordered, ?_, Before.asymm, Before.trans, ?_, ?_,
    sorting.kept, sorting.distinct⟩
  · grind [Before, List.Perm.eq_of_pairwise]
  · intro first firstMem second secondMem differs
    have either : sorted.Pairwise fun first second =>
        Before after first second ∨ Before after second first := ordered.imp .inl
    have symmetric : Std.Symm fun first second =>
        Before after first second ∨ Before after second first := ⟨fun _ _ => Or.symm⟩
    exact either.forall (perm.mem_iff.mpr firstMem) (perm.mem_iff.mpr secondMem)
      fun same => differs (congrArg getCookieUniqueID same)
  · exact fun comparison mem => settled_iff sorting.toConsistent (settled comparison mem)

/-- A cookie with a longer path, and two that the system has created in one second. -/
def unsortedCookies : List NSHTTPCookie :=
  [⟨"A", "foo", "/", some 5⟩, ⟨"B", "foo", "/", some 5⟩, ⟨"C", "foo", "/path", some 7⟩]

theorem sortedArrayUsingFunction_spec_unsortedCookies :
    ∃ sorted answers after,
      sortedArrayUsingFunction sinceWindowsEpoch .insertion unsortedCookies initial =
        some (sorted, answers, after) ∧
      Sorted initial unsortedCookies sorted answers after ∧
      sorted.map NSHTTPCookie.name = ["C", "A", "B"] := by
  have room : HasRoom sinceWindowsEpoch initial unsortedCookies := by
    intro cookie mem _
    simp only [unsortedCookies, List.mem_cons, List.not_mem_nil, or_false] at mem
    rcases mem with rfl | rfl | rfl <;> exact ⟨_, rfl, by decide +kernel⟩
  obtain ⟨sorted, answers, after, returned, spec⟩ :=
    sortedArrayUsingFunction_spec sinceWindowsEpoch .start .insertion unsortedCookies
      (by decide) room
  refine ⟨sorted, answers, after, returned, spec, ?_⟩
  have computed := congrArg (Option.map fun result => result.1.map NSHTTPCookie.name) returned
  exact Option.some.inj (computed.symm.trans (by decide +kernel))

end CookieCreationTimeManager

end ChromiumIos
