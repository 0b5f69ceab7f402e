import ChromiumIos.Lib.OrderedSet
import ChromiumIos.Lib.Runs

/-!
# Creation times of cookies

The system stores cookies with creation times of one second precision, if any.
The manager keeps a time of its own for each cookie, and every time is used by
one cookie only.  A time that is wanted but used is moved on by the smallest step
until it is free.

Times are signed words of 64 bits; to move on from the last one is an overflow,
which is taken for a failed assertion.
-/

namespace ChromiumIos

open Lib

abbrev Time := { value : Int // -2 ^ 63 ≤ value ∧ value < 2 ^ 63 }

variable {next time : Time}

namespace Time

def null : Time := ⟨0, by decide⟩

def toInternalValue (time : Time) : Int := time.1

def fromInternalValue (value : Int) : Checked Time :=
  if inRange : -2 ^ 63 ≤ value ∧ value < 2 ^ 63 then some ⟨value, inRange⟩ else none

/-- The time that follows a time, unless it is the last one. -/
theorem fromInternalValue_succ
    (follows : fromInternalValue (time.toInternalValue + 1) = some next) (other : Time) :
    next ≤ other ↔ time < other := by
  unfold fromInternalValue at follows
  split at follows
  · cases follows
    exact Int.add_one_le_iff
  · cases follows

theorem le_of_fromInternalValue_succ
    (overflows : fromInternalValue (time.toInternalValue + 1) = none) (other : Time) :
    other ≤ time := by
  unfold fromInternalValue at overflows
  split at overflows
  · cases overflows
  case isFalse outside =>
    have less : other.1 ≤ time.1 := by
      unfold toInternalValue at outside
      omega
    exact less

end Time

/-- A cookie of the system, with the creation time among its properties, in seconds, if there
is one. -/
structure NSHTTPCookie where
  name : String
  domain : String
  path : String
  created : Option Rat
deriving DecidableEq

/-- Whether the program is built for Cronet, and how seconds are converted. -/
structure CookieTimes where
  cronetBuild : Bool
  fromCFAbsoluteTime : Rat → Time

variable (times : CookieTimes) (cookie : NSHTTPCookie)

/-- The property is that of a cookie made from properties when it is less than two. -/
def getCreationTimeFromObject : Checked Time := do
  dcheck (times.cronetBuild ∨ cookie.created.isSome)
  match cookie.created with
  | none => return Time.null
  | some created => return if created < 2 then Time.null else times.fromCFAbsoluteTime created

def getCookieUniqueID : String :=
  cookie.name ++ ";" ++ cookie.domain ++ ";" ++ cookie.path

abbrev UniqueTimes := OrderedSet (id : Time → Time)

structure CookieCreationTimeManager where
  creationTimes : String → Option Time
  uniqueTimes : UniqueTimes

namespace CookieCreationTimeManager

def initial : CookieCreationTimeManager := ⟨fun _ => none, .empty⟩

def releaseTime (uniqueTimes : UniqueTimes) : Option Time → Checked UniqueTimes
  | none => some uniqueTimes
  | some time => do
      dcheck (time ∈ uniqueTimes)
      return uniqueTimes.erase time

variable (manager : CookieCreationTimeManager) (cookie : NSHTTPCookie)

def setCreationTime (creationTime : Time) : Checked CookieCreationTimeManager := do
  dcheck (creationTime ∉ manager.uniqueTimes)
  let uniqueTimes ← releaseTime manager.uniqueTimes
    (manager.creationTimes (getCookieUniqueID cookie))
  return {
    creationTimes :=
      Function.update manager.creationTimes (getCookieUniqueID cookie) (some creationTime)
    uniqueTimes := uniqueTimes.insert creationTime }

def incrementWhileUsed (time : Time) : List Time → Checked Time
  | [] => none
  | used :: rest => do
      dcheck (time = used)
      let next ← Time.fromInternalValue (time.toInternalValue + 1)
      match rest with
      | [] => return next
      | following :: _ =>
        if following = next then incrementWhileUsed next rest else return next

def makeUniqueCreationTime (creationTime : Time) : Checked Time :=
  match manager.uniqueTimes.find creationTime with
  | none => some creationTime
  | some iterator => incrementWhileUsed creationTime iterator

def getCreationTime : Checked (Time × CookieCreationTimeManager) :=
  match manager.creationTimes (getCookieUniqueID cookie) with
  | some time => some (time, manager)
  | none => do
      let nativeCreationTime ← getCreationTimeFromObject times cookie
      let nativeCreationTime ← manager.makeUniqueCreationTime nativeCreationTime
      let after ← manager.setCreationTime cookie nativeCreationTime
      return (nativeCreationTime, after)

def deleteCreationTime : Checked CookieCreationTimeManager := do
  let uniqueTimes ← releaseTime manager.uniqueTimes
    (manager.creationTimes (getCookieUniqueID cookie))
  return {
    creationTimes := Function.update manager.creationTimes (getCookieUniqueID cookie) none
    uniqueTimes := uniqueTimes }

def clear (_ : CookieCreationTimeManager) : CookieCreationTimeManager := ⟨fun _ => none, .empty⟩

/-! ## Operations -/

inductive Operation where
  | setCreationTime (cookie : NSHTTPCookie) (creationTime : Time)
  | makeUniqueCreationTime (creationTime : Time)
  | getCreationTime (cookie : NSHTTPCookie)
  | deleteCreationTime (cookie : NSHTTPCookie)
  | clear
deriving DecidableEq

structure Call where
  operation : Operation
  returned : Option Time
deriving DecidableEq

def perform : Operation → Checked (Option Time × CookieCreationTimeManager)
  | .setCreationTime cookie creationTime => do
      let after ← manager.setCreationTime cookie creationTime
      return (none, after)
  | .makeUniqueCreationTime creationTime => do
      let time ← manager.makeUniqueCreationTime creationTime
      return (some time, manager)
  | .getCreationTime cookie => do
      let (time, after) ← manager.getCreationTime times cookie
      return (some time, after)
  | .deleteCreationTime cookie => do
      let after ← manager.deleteCreationTime cookie
      return (none, after)
  | .clear => some (none, manager.clear)

def step (operation : Operation) : Checked (CookieCreationTimeManager × List Call) := do
  let (returned, after) ← manager.perform times operation
  return (after, [⟨operation, returned⟩])

/-- The times that are set are those the manager has made unique, as in the system stores. -/
def Accepts : Operation → Prop
  | .setCreationTime _ creationTime =>
    ∃ requested, manager.makeUniqueCreationTime requested = some creationTime
  | _ => True

/-! ## The search for a free time -/

section Search

variable {manager : CookieCreationTimeManager} {time used : Time} {iterator : List Time}

def Unused (used : Set Time) (time : Time) : Set Time := {other | time ≤ other ∧ other ∉ used}

/-- A used time does not matter when its successor is looked at. -/
theorem unused_succ {used : Set Time} (isUsed : time ∈ used)
    (follows : ∀ other, next ≤ other ↔ time < other) : Unused used time = Unused used next := by
  grind [Unused]

/-- The loop ends at the first time that is free, or overflows when there is none. -/
theorem incrementWhileUsed_spec {rest : List Time}
    (sorted : (time :: rest).Pairwise fun first second => first < second) :
    (∃ free, incrementWhileUsed time (time :: rest) = some free ∧
      IsLeast (Unused {other | other ∈ time :: rest} time) free) ∨
    (incrementWhileUsed time (time :: rest) = none ∧
      Unused {other | other ∈ time :: rest} time = ∅) := by
  induction rest generalizing time with
  | nil =>
    cases follows : Time.fromInternalValue (time.toInternalValue + 1) with
    | none =>
      refine .inr ⟨by simp [incrementWhileUsed, follows], ?_⟩
      ext other
      refine ⟨fun ⟨bound, free⟩ => free ?_, False.elim⟩
      simp [le_antisymm (Time.le_of_fromInternalValue_succ follows other) bound]
    | some next =>
      refine .inl ⟨next, by simp [incrementWhileUsed, follows], ?_⟩
      have succ := Time.fromInternalValue_succ follows
      have above : time < next := (succ next).mp le_rfl
      rw [unused_succ (show time ∈ {other | other ∈ [time]} from List.mem_cons_self) succ]
      refine ⟨⟨le_rfl, fun mem => ?_⟩, fun other unused => unused.1⟩
      exact absurd (List.mem_singleton.mp mem) (ne_of_gt above)
  | cons following rest ih =>
    obtain ⟨above, sortedRest⟩ := List.pairwise_cons.mp sorted
    have later : time < following := above following List.mem_cons_self
    cases follows : Time.fromInternalValue (time.toInternalValue + 1) with
    | none =>
      exact absurd (Time.le_of_fromInternalValue_succ follows following) (not_le.mpr later)
    | some next =>
      have succ := Time.fromInternalValue_succ follows
      have isUsed : time ∈ {other | other ∈ time :: following :: rest} :=
        List.mem_cons_self
      by_cases same : following = next
      · subst same
        have loop : incrementWhileUsed time (time :: following :: rest) =
            incrementWhileUsed following (following :: rest) := by
          simp [incrementWhileUsed, follows]
        have unused : Unused {other | other ∈ time :: following :: rest} time =
            Unused {other | other ∈ following :: rest} following := by
          rw [unused_succ isUsed succ]
          ext other
          refine and_congr_right fun bound => not_congr ?_
          have differs : other ≠ time := ne_of_gt ((succ other).mp bound)
          simp [differs]
        rw [loop, unused]
        exact ih sortedRest
      · refine .inl ⟨next, ?_, ?_⟩
        · simp [incrementWhileUsed, follows, same]
        · rw [unused_succ isUsed succ]
          refine ⟨⟨le_rfl, fun mem => ?_⟩, fun other unused => unused.1⟩
          have beyond : next < following :=
            lt_of_le_of_ne ((succ following).mpr later) (Ne.symm same)
          rcases List.mem_cons.mp mem with isTime | mem
          · exact absurd isTime (ne_of_gt ((succ next).mp le_rfl))
          · rcases List.mem_cons.mp mem with isFollowing | mem
            · exact same isFollowing.symm
            · exact absurd beyond
                (not_lt.mpr (le_of_lt ((List.pairwise_cons.mp sortedRest).1 next mem)))

/-- The time made unique is the first one from the wanted time on that is not used. -/
theorem makeUniqueCreationTime_spec (manager : CookieCreationTimeManager) (time : Time) :
    (∃ free, manager.makeUniqueCreationTime time = some free ∧
      IsLeast (Unused {used | used ∈ manager.uniqueTimes} time) free) ∨
    (manager.makeUniqueCreationTime time = none ∧
      Unused {used | used ∈ manager.uniqueTimes} time = ∅) := by
  unfold makeUniqueCreationTime
  cases found : manager.uniqueTimes.find time with
  | none =>
    refine .inl ⟨time, rfl, ⟨le_rfl, fun mem => ?_⟩, fun other unused => unused.1⟩
    exact OrderedSet.find_eq_none found mem rfl
  | some _ =>
    obtain ⟨first, rest, rfl, same, sorted, mem⟩ := OrderedSet.find_eq_some found
    change first = time at same
    subst same
    have unused : Unused {used | used ∈ manager.uniqueTimes} first =
        Unused {used | used ∈ first :: rest} first := by
      ext other
      refine and_congr_right fun bound => not_congr ?_
      simp [mem, bound]
    rw [unused]
    exact incrementWhileUsed_spec sorted

variable {free : Time}

theorem makeUniqueCreationTime_eq_some_iff :
    manager.makeUniqueCreationTime time = some free ↔
      IsLeast (Unused {used | used ∈ manager.uniqueTimes} time) free := by
  rcases makeUniqueCreationTime_spec manager time with ⟨found, made, least⟩ | ⟨made, none⟩
  · rw [made]
    constructor
    · intro same
      cases same
      exact least
    · simpa using least.unique
  · rw [made, none]
    exact ⟨nofun, fun least => least.1.elim⟩

theorem notMem_of_makeUniqueCreationTime (made : manager.makeUniqueCreationTime time = some free) :
    free ∉ manager.uniqueTimes :=
  (makeUniqueCreationTime_eq_some_iff.mp made).1.2

end Search

/-! ## The two containers -/

/-- The used times are those of the cookies, each of one cookie. -/
structure Consistent (manager : CookieCreationTimeManager) : Prop where
  used : ∀ time, time ∈ manager.uniqueTimes ↔ ∃ uniqueID, manager.creationTimes uniqueID = some time
  distinct : ∀ {uniqueID other time}, manager.creationTimes uniqueID = some time →
    manager.creationTimes other = some time → uniqueID = other

theorem consistent_initial : Consistent initial where
  used time := by simp [initial]
  distinct has := by cases has

section Containers

variable {times : CookieTimes} {manager after : CookieCreationTimeManager} {cookie : NSHTTPCookie}
variable {time : Time} {uniqueID : String}

/-- Once the time of a cookie is released, the used times are those of the others. -/
theorem Consistent.release (consistent : Consistent manager) (uniqueID : String) :
    ∃ uniqueTimes, releaseTime manager.uniqueTimes (manager.creationTimes uniqueID) =
        some uniqueTimes ∧
      ∀ time, time ∈ uniqueTimes ↔
        ∃ other, other ≠ uniqueID ∧ manager.creationTimes other = some time := by
  cases has : manager.creationTimes uniqueID with
  | none =>
    refine ⟨manager.uniqueTimes, rfl, fun time => (consistent.used time).trans ?_⟩
    grind
  | some released =>
    have isUsed : released ∈ manager.uniqueTimes := (consistent.used released).mpr ⟨uniqueID, has⟩
    refine ⟨manager.uniqueTimes.erase released, ?_, fun time => ?_⟩
    · simp [releaseTime, dcheck_of isUsed]
    rw [OrderedSet.mem_erase, consistent.used]
    constructor
    · grind
    · grind [consistent.distinct]

theorem Consistent.setCreationTime (consistent : Consistent manager) (cookie : NSHTTPCookie)
    (free : time ∉ manager.uniqueTimes) :
    ∃ after, manager.setCreationTime cookie time = some after ∧ Consistent after ∧
      after.creationTimes =
        Function.update manager.creationTimes (getCookieUniqueID cookie) (some time) := by
  obtain ⟨uniqueTimes, released, mem⟩ := consistent.release (getCookieUniqueID cookie)
  have isNew : ∀ uniqueID, manager.creationTimes uniqueID ≠ some time :=
    by grind [consistent.used]
  have inserted : ∀ other,
      other ∈ uniqueTimes.insert time ↔ other = time ∨ other ∈ uniqueTimes := by
    refine fun other => OrderedSet.mem_insert fun kept memKept same => ?_
    grind
  have holds : ∀ {uniqueID other},
      Function.update manager.creationTimes (getCookieUniqueID cookie) (some time) uniqueID =
          some other ↔
        (uniqueID = getCookieUniqueID cookie ∧ other = time) ∨
          (uniqueID ≠ getCookieUniqueID cookie ∧ manager.creationTimes uniqueID = some other) := by
    grind
  refine ⟨⟨Function.update manager.creationTimes (getCookieUniqueID cookie) (some time),
    uniqueTimes.insert time⟩, ?_, ⟨fun other => (inserted other).trans ?_, ?_⟩, rfl⟩
  · simp [CookieCreationTimeManager.setCreationTime, dcheck_of free, released]
  · rw [mem]
    constructor
    · rintro (rfl | ⟨uniqueID, differs, has⟩)
      · exact ⟨getCookieUniqueID cookie, holds.mpr (.inl ⟨rfl, rfl⟩)⟩
      · exact ⟨uniqueID, holds.mpr (.inr ⟨differs, has⟩)⟩
    · grind
  · grind [consistent.distinct]

theorem Consistent.deleteCreationTime (consistent : Consistent manager) (cookie : NSHTTPCookie) :
    ∃ after, manager.deleteCreationTime cookie = some after ∧ Consistent after ∧
      after.creationTimes =
        Function.update manager.creationTimes (getCookieUniqueID cookie) none := by
  obtain ⟨uniqueTimes, released, mem⟩ := consistent.release (getCookieUniqueID cookie)
  have remains : ∀ {uniqueID time},
      Function.update manager.creationTimes (getCookieUniqueID cookie) none uniqueID = some time ↔
        uniqueID ≠ getCookieUniqueID cookie ∧ manager.creationTimes uniqueID = some time := by
    grind
  refine ⟨⟨Function.update manager.creationTimes (getCookieUniqueID cookie) none, uniqueTimes⟩, ?_,
    ⟨fun time => (mem time).trans ?_, ?_⟩, rfl⟩
  · simp [CookieCreationTimeManager.deleteCreationTime, released]
  · simp [remains.symm]
  · grind [consistent.distinct]

/-- A time that is got is kept, and no other time changes. -/
theorem Consistent.getCreationTime (consistent : Consistent manager)
    (got : manager.getCreationTime times cookie = some (time, after)) :
    Consistent after ∧
      after.creationTimes =
        Function.update manager.creationTimes (getCookieUniqueID cookie) (some time) := by
  unfold CookieCreationTimeManager.getCreationTime at got
  split at got
  case h_1 known has =>
    grind
  case h_2 =>
    obtain ⟨_, -, got⟩ := bind_eq_some got
    obtain ⟨_, made, got⟩ := bind_eq_some got
    obtain ⟨_, isSet, got⟩ := bind_eq_some got
    cases got
    obtain ⟨_, set', kept⟩ :=
      consistent.setCreationTime cookie (notMem_of_makeUniqueCreationTime made)
    rw [isSet] at set'
    cases set'
    exact kept

theorem getCreationTime_of_known
    (has : manager.creationTimes (getCookieUniqueID cookie) = some time) :
    manager.getCreationTime times cookie = some (time, manager) := by
  unfold CookieCreationTimeManager.getCreationTime
  rw [has]

end Containers

/-! ## Cookies and their IDs -/

/-- The separator of IDs is in neither the name nor the domain of a cookie. -/
def WellFormed : Prop :=
  ';' ∉ cookie.name.toList ∧ ';' ∉ cookie.domain.toList

/-- What is before the first separator and what is behind it. -/
theorem append_cons_inj {α : Type} {separator : α} {left other right rest : List α}
    (notMem : separator ∉ left) (notMemOther : separator ∉ other)
    (same : left ++ separator :: right = other ++ separator :: rest) :
    left = other ∧ right = rest := by
  induction left generalizing other with
  | nil | cons head tail ih =>
    cases other <;> grind

variable {cookie : NSHTTPCookie}

theorem getCookieUniqueID_inj {other : NSHTTPCookie} (wf : WellFormed cookie)
    (wfOther : WellFormed other) (same : getCookieUniqueID cookie = getCookieUniqueID other) :
    cookie.name = other.name ∧ cookie.domain = other.domain ∧ cookie.path = other.path := by
  have lists := congrArg String.toList same
  simp only [getCookieUniqueID, String.toList_append, List.append_assoc] at lists
  obtain ⟨names, lists⟩ := append_cons_inj wf.1 wfOther.1 lists
  obtain ⟨domains, paths⟩ := append_cons_inj wf.2 wfOther.2 lists
  exact ⟨String.toList_injective names, String.toList_injective domains,
    String.toList_injective paths⟩

/-! ## Runs -/

def Operation.Resets (uniqueID : String) : Operation → Prop
  | .setCreationTime cookie _ | .deleteCreationTime cookie => getCookieUniqueID cookie = uniqueID
  | .clear => True
  | _ => False

section Runs

variable {times : CookieTimes} {manager after : CookieCreationTimeManager}
variable {operation : Operation} {emitted log : List Call} {uniqueID : String} {time : Time}

theorem step_emits (stepped : step times manager operation = some (after, emitted)) :
    ∃ returned, emitted = [⟨operation, returned⟩] := by
  obtain ⟨⟨returned, next⟩, -, stepped⟩ := bind_eq_some stepped
  grind

theorem step_single (stepped : step times manager operation = some (after, emitted)) :
    ∃ call, emitted = [call] := by
  grind [step_emits]

/-- Every operation keeps the containers consistent, and the time of a cookie that it does not
reset. -/
theorem Consistent.step (consistent : Consistent manager) (accepted : Accepts manager operation)
    (stepped : CookieCreationTimeManager.step times manager operation = some (after, emitted)) :
    Consistent after ∧ ∀ uniqueID time, ¬ operation.Resets uniqueID →
      manager.creationTimes uniqueID = some time → after.creationTimes uniqueID = some time := by
  obtain ⟨⟨returned, next⟩, performed, stepped⟩ := bind_eq_some stepped
  cases stepped
  cases operation with
  | setCreationTime cookie _ =>
    obtain ⟨requested, made⟩ := accepted
    obtain ⟨set, isSet, performed⟩ := bind_eq_some performed
    cases performed
    obtain ⟨other, set', kept, changed⟩ :=
      consistent.setCreationTime cookie (notMem_of_makeUniqueCreationTime made)
    rw [isSet] at set'
    cases set'
    refine ⟨kept, fun uniqueID time differs has => ?_⟩
    rw [changed, Function.update_of_ne fun same => differs same.symm]
    exact has
  | makeUniqueCreationTime _ =>
    obtain ⟨made, -, performed⟩ := bind_eq_some performed
    grind
  | getCreationTime cookie =>
    obtain ⟨⟨_, _⟩, isGot, performed⟩ := bind_eq_some performed
    cases performed
    obtain ⟨kept, changed⟩ := consistent.getCreationTime isGot
    refine ⟨kept, fun uniqueID time _ has => ?_⟩
    rw [changed]
    by_cases same : uniqueID = getCookieUniqueID cookie
    · rw [same] at has
      rw [getCreationTime_of_known has] at isGot
      cases isGot
      rw [same, Function.update_self]
    · simp [same, has]
  | deleteCreationTime cookie =>
    obtain ⟨_, isDeleted, performed⟩ := bind_eq_some performed
    cases performed
    obtain ⟨_, deleted', kept, changed⟩ := consistent.deleteCreationTime cookie
    rw [isDeleted] at deleted'
    cases deleted'
    refine ⟨kept, fun uniqueID time differs has => ?_⟩
    rw [changed, Function.update_of_ne fun same => differs same.symm]
    exact has
  | clear =>
    cases performed
    exact ⟨consistent_initial, fun _ _ differs _ => absurd trivial differs⟩

theorem run_consistent (run : Runs (step times) Accepts manager log after)
    (consistent : Consistent manager) : Consistent after :=
  run.invariant Consistent consistent fun kept accepted stepped => (kept.step accepted stepped).1

/-- A cookie keeps its time through a run that does not reset it. -/
theorem run_keeps (run : Runs (step times) Accepts manager log after)
    (consistent : Consistent manager) (has : manager.creationTimes uniqueID = some time)
    (unreset : ∀ call ∈ log, ¬ call.operation.Resets uniqueID) :
    after.creationTimes uniqueID = some time := by
  induction run with
  | start => exact has
  | next before accepted stepped ih =>
    have kept := ih fun call mem => unreset call (List.mem_append_left _ mem)
    obtain ⟨_, rfl⟩ := step_emits stepped
    have unresetLast := unreset _ (List.mem_append_right _ (List.mem_singleton_self _))
    exact ((run_consistent before consistent).step accepted stepped).2 _ _ unresetLast kept

/-- What is got is the time of the cookie from then on. -/
theorem step_getCreationTime {returned : Option Time} {tail : List Call}
    (consistent : Consistent manager)
    (run : Runs (step times) Accepts manager (⟨.getCreationTime cookie, returned⟩ :: tail) after) :
    ∃ middle time, returned = some time ∧ Consistent middle ∧
      middle.creationTimes (getCookieUniqueID cookie) = some time ∧
      manager.getCreationTime times cookie = some (time, middle) ∧
      Runs (step times) Accepts middle tail after := by
  obtain ⟨_, _, -, stepped, rest⟩ := run.first step_single
  obtain ⟨⟨_, _⟩, performed, stepped⟩ := bind_eq_some stepped
  cases stepped
  obtain ⟨⟨_, _⟩, isGot, performed⟩ := bind_eq_some performed
  cases performed
  obtain ⟨kept, changed⟩ := consistent.getCreationTime isGot
  simp [changed, kept, isGot, rest]

/-- What is to hold of a run and of the manager it has reached. -/
structure Disciplined (times : CookieTimes) (log : List Call)
    (manager : CookieCreationTimeManager) : Prop extends Consistent manager where
  cookies : ∀ {cookie other time}, WellFormed cookie → WellFormed other →
    manager.creationTimes (getCookieUniqueID cookie) = some time →
    manager.creationTimes (getCookieUniqueID other) = some time →
    cookie.name = other.name ∧ cookie.domain = other.domain ∧ cookie.path = other.path
  unique : ∀ requested free, manager.makeUniqueCreationTime requested = some free ↔
    IsLeast (Unused {used | used ∈ manager.uniqueTimes} requested) free
  /-- There is always a time to return, unless all of them are used. -/
  found : ∀ requested, manager.makeUniqueCreationTime requested = none →
    Unused {used | used ∈ manager.uniqueTimes} requested = ∅
  stable : ∀ {before between after cookie again first second},
    log = before ++ ⟨.getCreationTime cookie, first⟩ ::
      (between ++ ⟨.getCreationTime again, second⟩ :: after) →
    getCookieUniqueID again = getCookieUniqueID cookie →
    (∀ call ∈ between, ¬ call.operation.Resets (getCookieUniqueID cookie)) →
    first.isSome ∧ second = first
  /-- No assertion about the two containers fails. -/
  asserted : ∀ operation, Accepts manager operation →
    (∀ requested, (manager.makeUniqueCreationTime requested).isSome) →
    (∀ cookie, (getCreationTimeFromObject times cookie).isSome) →
    (step times manager operation).isSome

theorem Consistent.asserted (consistent : Consistent manager)
    (accepted : Accepts manager operation)
    (free : ∀ requested, (manager.makeUniqueCreationTime requested).isSome)
    (native : ∀ cookie, (getCreationTimeFromObject times cookie).isSome) :
    (CookieCreationTimeManager.step times manager operation).isSome := by
  suffices performs : ∃ result, manager.perform times operation = some result by
    obtain ⟨_, performed⟩ := performs
    simp [CookieCreationTimeManager.step, performed]
  cases operation with
  | setCreationTime cookie _ =>
    obtain ⟨_, made⟩ := accepted
    obtain ⟨set, isSet, -⟩ :=
      consistent.setCreationTime cookie (notMem_of_makeUniqueCreationTime made)
    simp [perform, isSet]
  | makeUniqueCreationTime creationTime =>
    obtain ⟨made, isMade⟩ := Option.isSome_iff_exists.mp (free creationTime)
    simp [perform, isMade]
  | getCreationTime cookie =>
    cases has : manager.creationTimes (getCookieUniqueID cookie) with
    | some _ =>
      simp [perform, getCreationTime_of_known has]
    | none =>
      obtain ⟨created, isNative⟩ := Option.isSome_iff_exists.mp (native cookie)
      obtain ⟨_, isMade⟩ := Option.isSome_iff_exists.mp (free created)
      obtain ⟨_, isSet, -⟩ :=
        consistent.setCreationTime cookie (notMem_of_makeUniqueCreationTime isMade)
      simp [perform, CookieCreationTimeManager.getCreationTime, has, isNative, isMade, isSet]
  | deleteCreationTime cookie =>
    obtain ⟨_, isDeleted, -⟩ := consistent.deleteCreationTime cookie
    simp [perform, isDeleted]
  | clear => exact ⟨(none, manager.clear), rfl⟩

/-- Whatever the system stores do, the times in use are those of the cookies, each of one
cookie, and a cookie keeps its time until it is set, deleted or cleared. -/
theorem run_timesDisciplined (times : CookieTimes) (log : List Call)
    (manager : CookieCreationTimeManager)
    (run : Runs (step times) Accepts initial log manager) : Disciplined times log manager where
  toConsistent := run_consistent run consistent_initial
  cookies := by
    intro cookie other time wf wfOther has hasOther
    have consistent := run_consistent run consistent_initial
    exact getCookieUniqueID_inj wf wfOther (consistent.distinct has hasOther)
  unique requested free := makeUniqueCreationTime_eq_some_iff
  found requested overflows := by
    grind [makeUniqueCreationTime_spec]
  stable := by
    intro before between after cookie again first second split sameID unreset
    subst split
    obtain ⟨started, head, run⟩ := run.split step_single
    obtain ⟨middle, time, rfl, consistent, has, -, run⟩ :=
      step_getCreationTime (run_consistent head consistent_initial) run
    obtain ⟨reached, kept, run⟩ := run.split step_single
    obtain ⟨last, later, rfl, -, -, isGot, -⟩ :=
      step_getCreationTime (run_consistent kept consistent) run
    have known := run_keeps kept consistent has unreset
    rw [← sameID] at known
    grind [getCreationTime_of_known known]
  asserted operation accepted free native :=
    (run_consistent run consistent_initial).asserted accepted free native

end Runs

theorem accepts_setCreationTime {manager : CookieCreationTimeManager} :
    Accepts manager (.setCreationTime cookie time) ↔ time ∉ manager.uniqueTimes := by
  refine ⟨fun ⟨requested, made⟩ => notMem_of_makeUniqueCreationTime made, fun free => ?_⟩
  exact ⟨time, makeUniqueCreationTime_eq_some_iff.mpr
    ⟨⟨le_rfl, free⟩, fun other unused => unused.1⟩⟩

instance (operation : Operation) : Decidable (Accepts manager operation) :=
  match operation with
  | .setCreationTime _ _ => decidable_of_iff' _ accepts_setCreationTime
  | .makeUniqueCreationTime _ | .getCreationTime _ | .deleteCreationTime _ | .clear =>
    isTrue trivial

def sinceWindowsEpoch : CookieTimes where
  cronetBuild := false
  fromCFAbsoluteTime created :=
    (Time.fromInternalValue ((created + 978307200 + 11644473600) * 1000000).floor).getD Time.null

def sameSecond : List Operation :=
  let first : NSHTTPCookie := ⟨"A", "foo", "/", some 5⟩
  [.getCreationTime first, .getCreationTime { first with name := "C" }, .getCreationTime first,
    .setCreationTime first ⟨7, by decide⟩, .getCreationTime first]

theorem run_timesDisciplined_sameSecond :
    ∃ log manager, Disciplined sinceWindowsEpoch log manager ∧
      log.map (fun call => call.returned.map Time.toInternalValue) =
        [some 12622780805000000, some 12622780805000001, some 12622780805000000, none, some 7] := by
  have run : Runs (step sinceWindowsEpoch) Accepts initial _ _ :=
    Runs.replay sameSecond .start (Option.eq_some_of_isSome (by decide +kernel))
  exact ⟨_, _, run_timesDisciplined sinceWindowsEpoch _ _ run, by decide +kernel⟩

end CookieCreationTimeManager

end ChromiumIos
