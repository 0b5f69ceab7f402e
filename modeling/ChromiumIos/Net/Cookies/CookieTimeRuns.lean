import ChromiumIos.Net.Cookies.CookieClears

/-!
# The times of the cookies of WebKit

When all changes on their way have been made, each cookie has the time of its last set and no
other cookie has one, unless a set was executed while a clear was deleting cookies.
-/

namespace ChromiumIos

open Lib CookieCreationTimeManager CookieCompletion CookieOperation

namespace WKHTTPSystemCookieStore

variable {store after : WKHTTPSystemCookieStore} {log events : List CookieEvent} {input : Input}
variable {uniqueID : String} {requested : String → Option Time}

def LastRecorded (log : List CookieEvent) (uniqueID : String) (requested unique : Time) : Prop :=
  ∃ before later, log = before ++ .recorded uniqueID requested unique :: later ∧
    ∀ other time, .recorded uniqueID other time ∉ later

/-- The recorded time of a cookie beside the one that it was made from. -/
inductive Recorded (log : List CookieEvent) (uniqueID : String) :
    Option Time → Option Time → Prop where
  | none : Recorded log uniqueID none none
  | some (requested unique : Time) (notEarlier : requested ≤ unique)
      (last : LastRecorded log uniqueID requested unique) :
      Recorded log uniqueID (some unique) (some requested)

/-- The cookies that are on their way have names and domains without a separator. -/
structure CookiesWellFormed (store : WKHTTPSystemCookieStore) : Prop where
  ui : ∀ task ∈ store.ui, ∀ cookie ∈ (issue task).cookie?, WellFormed cookie
  operations : ∀ operation ∈ store.operations, ∀ cookie ∈ operation.cookie?, WellFormed cookie
  cookies : ∀ stored ∈ store.cookies, WellFormed stored.cookie
  completions : ∀ completion ∈ store.completions, ∀ cookies ∈ completion.snapshot?,
    ∀ cookie ∈ cookies, WellFormed cookie

/-- The tasks of the IO thread, and those that completion handlers will post. -/
def pendingTasks (store : WKHTTPSystemCookieStore) : List CookieIOTask :=
  store.io ++ tasks store.remainingCookiesToClearCount store.completions

/-- When the pending tasks have run, each cookie that was set has the time of its last set, and
a cookie that is not there has none unless a clear is to follow. -/
structure Timed (log : List CookieEvent) (store : WKHTTPSystemCookieStore)
    (requested : String → Option Time) : Prop where
  manager : Consistent store.creationTimeManager
  recorded : ∀ uniqueID,
    Recorded log uniqueID (store.creationTimeManager.creationTimes uniqueID) (requested uniqueID)
  last : ∀ stored ∈ store.cookies, ∀ time, stored.requested = some time →
    finalRequest (getCookieUniqueID stored.cookie)
      (requested (getCookieUniqueID stored.cookie)) store.pendingTasks = some time
  gone : ∀ uniqueID, (∀ stored ∈ store.cookies,
      getCookieUniqueID stored.cookie = uniqueID → stored.requested = none) →
    finalRequest uniqueID (requested uniqueID) store.pendingTasks = none ∨ store.Clearing

/-! ## Operations -/

variable {cookie : NSHTTPCookie} {completion : CookieCompletion} {operation : CookieOperation}
variable {rest : List CookieOperation}

/-- A cookie that is not replaced by a set or deleted has another ID. -/
theorem mem_others {stored : StoredCookie} (wellFormed : CookiesWellFormed store)
    (wf : WellFormed cookie) (mem : stored ∈ store.cookies) :
    stored ∈ store.others cookie ↔
      getCookieUniqueID cookie ≠ getCookieUniqueID stored.cookie := by
  simp [others, ← isSame_iff wf (wellFormed.cookies stored mem), mem]

/-- An operation adds one completion, and what it leads to, to the pending tasks. -/
theorem pendingTasks_execute (clears : Clears store) (operations : List CookieOperation)
    (cookies : List StoredCookie) (completion : CookieCompletion) :
    ({ store with
      operations := operations
      cookies := cookies
      completions := store.completions ++ [completion] } :
        WKHTTPSystemCookieStore).pendingTasks = store.pendingTasks ++
      tasks (fun clear => store.operations.countP (isClearOf clear)) [completion] := by
  have counts : (fun clear => store.remainingCookiesToClearCount clear -
      store.completions.countP (isClearedOf clear)) =
        fun clear => store.operations.countP (isClearOf clear) := by
    simp [clears.counts]
  simp [pendingTasks, tasks_concat, counts]

/-- A clear goes on after another operation has been executed. -/
theorem Clearing.execute {cookies : List StoredCookie} (clearing : store.Clearing)
    (operations : store.operations = operation :: rest) (none : operation.clear? = none) :
    Clearing { store with
      operations := rest
      cookies := cookies
      completions := store.completions ++ [completion] } := by
  rcases clearing with ⟨done, mem, read⟩ | ⟨other, mem, deletes⟩
  · exact Or.inl ⟨done, List.mem_append_left _ mem, read⟩
  · rw [operations] at mem
    rcases List.mem_cons.mp mem with rfl | later
    · simp [none] at deletes
    · exact Or.inr ⟨other, later, deletes⟩

variable (timed : Timed log store requested)
include timed

theorem setCookie_timed {cookieTime : Time} (clears : Clears store)
    (wellFormed : CookiesWellFormed store)
    (operations : store.operations = .setCookie cookie cookieTime :: rest) :
    Timed log { store with
      operations := rest
      cookies := store.others cookie ++ [⟨cookie, some cookieTime⟩]
      completions := store.completions ++ [.set cookie cookieTime] } requested := by
  have wf : WellFormed cookie := wellFormed.operations (.setCookie cookie cookieTime)
    (by simp [operations]) cookie rfl
  refine ⟨timed.manager, timed.recorded, fun stored mem time has => ?_, fun uniqueID none => ?_⟩
  · rw [pendingTasks_execute clears, finalRequest_append]
    change (if getCookieUniqueID cookie = _ then some cookieTime else _) = _
    rcases List.mem_append.mp mem with old | new
    · have inside := (List.mem_filter.mp old).1
      rw [if_neg ((mem_others wellFormed wf inside).mp old)]
      exact timed.last stored inside time has
    · grind
  · rw [pendingTasks_execute clears, finalRequest_append]
    change (if getCookieUniqueID cookie = _ then some cookieTime else _) = _ ∨ _
    have other : getCookieUniqueID cookie ≠ uniqueID := by
      intro same
      have := none _ (List.mem_append_right _ (List.mem_singleton.mpr rfl)) same
      cases this
    rw [if_neg other]
    refine (timed.gone uniqueID fun stored mem same => ?_).imp id
      fun clearing => clearing.execute operations rfl
    grind [mem_others]

theorem deleteCookie_timed (clears : Clears store) (wellFormed : CookiesWellFormed store)
    (operations : store.operations = .deleteCookie cookie :: rest) :
    Timed log { store with
      operations := rest
      cookies := store.others cookie
      completions := store.completions ++ [.deleted cookie] } requested := by
  have wf : WellFormed cookie := wellFormed.operations (.deleteCookie cookie)
    (by simp [operations]) cookie rfl
  refine ⟨timed.manager, timed.recorded, fun stored mem time has => ?_, fun uniqueID none => ?_⟩
  · have inside := (List.mem_filter.mp mem).1
    rw [pendingTasks_execute clears, finalRequest_append]
    change (if getCookieUniqueID cookie = _ then none else _) = _
    rw [if_neg ((mem_others wellFormed wf inside).mp mem)]
    exact timed.last stored inside time has
  · rw [pendingTasks_execute clears, finalRequest_append]
    change (if getCookieUniqueID cookie = _ then Option.none else _) = _ ∨ _
    by_cases own : getCookieUniqueID cookie = uniqueID
    · rw [if_pos own]
      exact Or.inl rfl
    · rw [if_neg own]
      refine (timed.gone uniqueID fun stored mem same => ?_).imp id
        fun clearing => clearing.execute operations rfl
      grind [mem_others]

/-- A clear reads the cookies; if there are none, it is over. -/
theorem getAllCookies_timed (clears : Clears store) (rest : List CookieOperation) :
    Timed log { store with
      operations := rest
      completions := store.completions ++ [.gotAll (store.cookies.map StoredCookie.cookie)] }
      requested := by
  have pending : ({ store with
      operations := rest
      completions := store.completions ++ [.gotAll (store.cookies.map StoredCookie.cookie)] } :
        WKHTTPSystemCookieStore).pendingTasks = _ :=
    pendingTasks_execute clears rest store.cookies
      (.gotAll (store.cookies.map StoredCookie.cookie))
  by_cases empty : store.cookies = []
  · rw [empty] at pending
    refine ⟨timed.manager, timed.recorded, fun stored mem => ?_, fun uniqueID _ => Or.inl ?_⟩
    · simp [empty] at mem
    · rw [empty, pending, finalRequest_append]
      rfl
  · have read : store.cookies.map StoredCookie.cookie ≠ [] :=
      fun none => empty (List.map_eq_nil_iff.mp none)
    obtain ⟨_, _, cookies⟩ := List.exists_cons_of_ne_nil read
    have same : tasks (fun clear => store.operations.countP (isClearOf clear))
        [.gotAll (store.cookies.map StoredCookie.cookie)] = [] := by
      rw [cookies]
      rfl
    rw [same, List.append_nil] at pending
    refine ⟨timed.manager, timed.recorded, fun stored mem time has => ?_,
      fun uniqueID _ => Or.inr (Or.inl ⟨_, List.mem_append_right _ (List.mem_singleton.mpr rfl),
        _, rfl, read⟩)⟩
    rw [pending]
    exact timed.last stored mem time has

/-- A clear deletes one of its cookies; with the last one, the store is empty. -/
theorem clearCookie_timed {clear : Nat} (clears : Clears store)
    (operations : store.operations = .clearCookie clear cookie :: rest) :
    Timed log { store with
      operations := rest
      cookies := store.others cookie
      completions := store.completions ++ [.cleared clear] } requested := by
  have pending : ({ store with
      operations := rest
      cookies := store.others cookie
      completions := store.completions ++ [.cleared clear] } :
        WKHTTPSystemCookieStore).pendingTasks = _ :=
    pendingTasks_execute clears rest (store.others cookie) (.cleared clear)
  by_cases last : ∃ operation ∈ rest, operation.clear? = some clear
  · obtain ⟨next, later, deletes⟩ := last
    have more : store.operations.countP (isClearOf clear) ≠ 1 := by
      have one : 0 < rest.countP (isClearOf clear) :=
        List.countP_pos_iff.mpr ⟨next, later, decide_eq_true deletes⟩
      rw [operations, List.countP_cons]
      simp only [isClearOf, clear?, decide_true, if_true] at one ⊢
      omega
    have same : tasks (fun clear => store.operations.countP (isClearOf clear))
        [.cleared clear] = [] := by
      rw [tasks, if_neg more, tasks]
    rw [same, List.append_nil] at pending
    refine ⟨timed.manager, timed.recorded, fun stored mem time has => ?_,
      fun uniqueID _ => Or.inr (Or.inr ⟨next, later, by rw [deletes]; rfl⟩)⟩
    rw [pending]
    exact timed.last stored (List.mem_filter.mp mem).1 time has
  · have one : store.operations.countP (isClearOf clear) = 1 := by
      have none : rest.countP (isClearOf clear) = 0 :=
        List.countP_eq_zero.mpr fun other mem found => last ⟨other, mem, of_decide_eq_true found⟩
      rw [operations, List.countP_cons, none]
      simp [isClearOf, clear?]
    have empty : ∀ stored, stored ∉ store.others cookie := by
      intro stored mem
      obtain ⟨inside, apart⟩ := List.mem_filter.mp mem
      obtain ⟨other, found, deletes⟩ := (clears.covers stored inside).issued
        (.clearCookie clear cookie) (by rw [operations]; exact List.mem_cons_self) clear rfl
      rw [operations] at found
      rcases List.mem_cons.mp found with rfl | later
      · simp [(of_decide_eq_true deletes).2] at apart
      · refine last ⟨other, later, ?_⟩
        cases other with
        | clearCookie _ _ => rw [clear?, (of_decide_eq_true deletes).1]
        | setCookie | deleteCookie | getAllCookies => cases deletes
    refine ⟨timed.manager, timed.recorded, fun stored mem => absurd mem (empty stored),
      fun uniqueID _ => Or.inl ?_⟩
    rw [pending, finalRequest_append, tasks, if_pos one]
    rfl

theorem execute_timed (clears : Clears store) (wellFormed : CookiesWellFormed store)
    (operations : store.operations = operation :: rest) :
    Timed log (({ store with operations := rest } : WKHTTPSystemCookieStore).execute operation)
      requested := by
  cases operation with
  | setCookie _ _ =>
    have executed := setCookie_timed timed clears wellFormed operations
    exact executed
  | deleteCookie _ =>
    have executed := deleteCookie_timed timed clears wellFormed operations
    exact executed
  | getAllCookies =>
    have executed := getAllCookies_timed timed clears rest
    exact executed
  | clearCookie _ _ =>
    have executed := clearCookie_timed timed clears operations
    exact executed

omit timed

/-! ## Completion handlers -/

/-- A completion handler turns the completion into the tasks it stands for. -/
theorem complete_pendingTasks {rest : List CookieCompletion} (clears : Clears store)
    (completions : store.completions = completion :: rest)
    (completed : ({ store with completions := rest } : WKHTTPSystemCookieStore).complete
      completion = some after) :
    after.pendingTasks = store.pendingTasks ∧ after.cookies = store.cookies ∧
      after.creationTimeManager = store.creationTimeManager ∧
      (store.Clearing → after.Clearing) := by
  have goesOn : completion.snapshot? = none → ∀ last : WKHTTPSystemCookieStore,
      last.completions = rest → last.operations = store.operations → store.Clearing →
        last.Clearing := by
    intro none last done issued clearing
    simp [Clearing, completions, done, issued, none, clearing.imp]
  unfold pendingTasks
  rw [completions]
  cases completion with
  | set cookie cookieTime | deleted cookie =>
    cases completed
    exact ⟨List.append_assoc .., rfl, rfl, goesOn rfl _ rfl rfl⟩
  | gotAll cookies =>
    cases cookies with
    | nil =>
      cases completed
      refine ⟨List.append_assoc .., rfl, rfl, ?_⟩
      rintro (⟨other, mem, read⟩ | issued)
      · rw [completions] at mem
        rcases List.mem_cons.mp mem with rfl | later
        · obtain ⟨cookies, has, some⟩ := read
          cases has
          grind
        · exact Or.inl ⟨other, later, read⟩
      · exact Or.inr issued
    | cons head _ =>
      cases completed
      refine ⟨congrArg (store.io ++ ·) (tasks_congr fun clear mem => ?_), rfl, rfl, fun _ => ?_⟩
      · have counts := clears.counts clear
        have used : clear ≠ store.nextClear := by
          rintro rfl
          rw [clears.unused _ (Nat.le_refl _)] at counts
          have one : 0 < store.completions.countP (isClearedOf store.nextClear) := by
            grind [isClearedOf]
          omega
        exact Function.update_of_ne used ..
      · exact Or.inr ⟨.clearCookie store.nextClear head, List.mem_append_right _
          List.mem_cons_self, rfl⟩
  | cleared clear =>
    unfold complete at completed
    dsimp only at completed
    rw [tasks]
    split at completed
    · cases completed
    · next counted =>
      split at completed
      · next last =>
        cases completed
        rw [if_pos (show store.remainingCookiesToClearCount clear = 1 by omega)]
        exact ⟨List.append_assoc .., rfl, rfl, goesOn rfl _ rfl rfl⟩
      · next more =>
        cases completed
        rw [if_neg (show ¬store.remainingCookiesToClearCount clear = 1 by omega)]
        exact ⟨rfl, rfl, rfl, goesOn rfl _ rfl rfl⟩

theorem complete_timed {rest : List CookieCompletion} (timed : Timed log store requested)
    (clears : Clears store) (completions : store.completions = completion :: rest)
    (completed : ({ store with completions := rest } : WKHTTPSystemCookieStore).complete
      completion = some after) : Timed log after requested := by
  obtain ⟨pending, cookies, manager, clearing⟩ :=
    complete_pendingTasks clears completions completed
  refine ⟨?_, ?_, ?_, ?_⟩
  · rw [manager]
    exact timed.manager
  · rw [manager]
    exact timed.recorded
  · rw [cookies, pending]
    exact timed.last
  · grind [timed.gone]

/-! ## Tasks of the IO thread -/

/-- Another cookie has its time recorded. -/
theorem Recorded.other {now request : Option Time} {other : String} {requested unique : Time}
    (recorded : Recorded log uniqueID now request) (different : other ≠ uniqueID) :
    Recorded (log ++ [.recorded other requested unique]) uniqueID now request := by
  cases recorded with
  | none => exact .none
  | some old time notEarlier last =>
    obtain ⟨before, later, split, none⟩ := last
    refine .some old time notEarlier ⟨before, later ++ [.recorded other requested unique], ?_, ?_⟩
    · rw [split, List.append_assoc]
      rfl
    · grind

/-- A task of the IO thread makes the change that it stands for. -/
theorem performIOTask_timed {task : CookieIOTask} {rest : List CookieIOTask}
    (timed : Timed log store requested) (io : store.io = task :: rest)
    (performed : ({ store with io := rest } : WKHTTPSystemCookieStore).performIOTask task =
      some (after, events)) :
    ∃ requested, Timed (log ++ events) after requested := by
  -- What is left to do leads to the same times from the new ones.
  have left : ∀ (manager : CookieCreationTimeManager) (events : List CookieEvent),
      Consistent manager →
      (∀ uniqueID, Recorded (log ++ events) uniqueID (manager.creationTimes uniqueID)
        (task.after uniqueID (requested uniqueID))) →
      Timed (log ++ events) { store with io := rest, creationTimeManager := manager }
        (fun uniqueID => task.after uniqueID (requested uniqueID)) := by
    intro manager events consistent recorded
    have pending : ∀ uniqueID, finalRequest uniqueID (task.after uniqueID (requested uniqueID))
        (rest ++ tasks store.remainingCookiesToClearCount store.completions) =
          finalRequest uniqueID (requested uniqueID) store.pendingTasks := by
      simp [finalRequest, pendingTasks, io]
    refine ⟨consistent, recorded, fun stored mem time has => ?_, fun uniqueID none => ?_⟩
    · exact (pending _).trans (timed.last stored mem time has)
    · grind [pendingTasks, Clearing, timed.gone]
  cases task with
  | setCreationTime cookie cookieTime =>
    obtain ⟨unique, made, performed⟩ := bind_eq_some performed
    obtain ⟨manager, set, performed⟩ := bind_eq_some performed
    cases performed
    obtain ⟨other, set', consistent, times⟩ :=
      timed.manager.setCreationTime cookie (notMem_of_makeUniqueCreationTime made)
    cases set.symm.trans set'
    refine ⟨_, left manager _ consistent fun uniqueID => ?_⟩
    rw [times]
    by_cases own : getCookieUniqueID cookie = uniqueID
    · subst own
      rw [Function.update_self, CookieIOTask.after, if_pos rfl]
      exact .some cookieTime unique (makeUniqueCreationTime_eq_some_iff.mp made).1.1
        ⟨log, [], rfl, fun _ _ => List.not_mem_nil⟩
    · rw [Function.update_of_ne (Ne.symm own), CookieIOTask.after, if_neg own]
      exact (timed.recorded uniqueID).other own
  | deleteCreationTime cookie =>
    obtain ⟨manager, deleted, performed⟩ := bind_eq_some performed
    cases performed
    obtain ⟨_, deleted', consistent, times⟩ := timed.manager.deleteCreationTime cookie
    cases deleted.symm.trans deleted'
    refine ⟨_, left manager _ consistent fun uniqueID => ?_⟩
    rw [times, List.append_nil]
    by_cases own : getCookieUniqueID cookie = uniqueID
    · subst own
      simpa [CookieIOTask.after] using .none
    · simp [Function.update_of_ne (Ne.symm own), CookieIOTask.after, own, timed.recorded]
  | clear =>
    cases performed
    refine ⟨_, left _ _ consistent_initial fun uniqueID => ?_⟩
    exact .none

/-! ## Runs -/

theorem execute_wellFormed (wellFormed : CookiesWellFormed store)
    (operations : store.operations = operation :: rest) :
    CookiesWellFormed
      (({ store with operations := rest } : WKHTTPSystemCookieStore).execute operation) := by
  have own := wellFormed.operations operation (by simp [operations])
  have later : ∀ other ∈ rest, ∀ cookie ∈ other.cookie?, WellFormed cookie := by
    grind [wellFormed.operations]
  have others : ∀ cookie, ∀ stored ∈ store.others cookie, WellFormed stored.cookie :=
    by grind [others, wellFormed.cookies]
  have done : ∀ completion : CookieCompletion, completion.snapshot? = none →
      ∀ other ∈ store.completions ++ [completion], ∀ cookies ∈ other.snapshot?,
        ∀ cookie ∈ cookies, WellFormed cookie := by
    grind [wellFormed.completions]
  cases operation with
  | setCookie cookie _ =>
    refine ⟨wellFormed.ui, later, fun stored mem => ?_, done _ rfl⟩
    rcases List.mem_append.mp mem with old | new
    · exact others cookie stored old
    · cases List.mem_singleton.mp new
      exact own cookie rfl
  | deleteCookie cookie | clearCookie clear cookie =>
    exact ⟨wellFormed.ui, later, others cookie, done _ rfl⟩
  | getAllCookies =>
    refine ⟨wellFormed.ui, later, wellFormed.cookies, fun other mem cookies has cookie read => ?_⟩
    rcases List.mem_append.mp mem with old | new
    · exact wellFormed.completions other old cookies has cookie read
    · cases List.mem_singleton.mp new
      cases has
      grind [wellFormed.cookies]

theorem complete_wellFormed {rest : List CookieCompletion} (wellFormed : CookiesWellFormed store)
    (completions : store.completions = completion :: rest)
    (completed : ({ store with completions := rest } : WKHTTPSystemCookieStore).complete
      completion = some after) : CookiesWellFormed after := by
  have later : ∀ other ∈ rest, ∀ cookies ∈ other.snapshot?, ∀ cookie ∈ cookies,
      WellFormed cookie := by
    grind [wellFormed.completions]
  unfold complete at completed
  cases completion with
  | set | deleted =>
    cases completed
    exact ⟨wellFormed.ui, wellFormed.operations, wellFormed.cookies, later⟩
  | gotAll cookies =>
    have read := wellFormed.completions (.gotAll cookies)
      (by simp [completions]) cookies rfl
    dsimp only at completed
    split at completed
    · cases completed
      exact ⟨wellFormed.ui, wellFormed.operations, wellFormed.cookies, later⟩
    · cases completed
      refine ⟨wellFormed.ui, fun operation mem => ?_, wellFormed.cookies, later⟩
      grind [cookie?, wellFormed.operations]
  | cleared _ =>
    dsimp only at completed
    split at completed
    · cases completed
    · split at completed
      · cases completed
        exact ⟨wellFormed.ui, wellFormed.operations, wellFormed.cookies, later⟩
      · cases completed
        exact ⟨wellFormed.ui, wellFormed.operations, wellFormed.cookies, later⟩

/-- A call goes to the UI thread. -/
theorem CookiesWellFormed.call (wellFormed : CookiesWellFormed store) (task : CookieUITask)
    (own : ∀ cookie ∈ (issue task).cookie?, WellFormed cookie) :
    CookiesWellFormed { store with ui := store.ui ++ [task] } := by
  refine ⟨fun other mem => ?_, wellFormed.operations, wellFormed.cookies, wellFormed.completions⟩
  grind [wellFormed.ui]

theorem step_wellFormed (wellFormed : CookiesWellFormed store) (apart : SetsApart store input)
    (stepped : store.step input = some (after, events)) : CookiesWellFormed after := by
  cases step_moved stepped with
  | called _ task own => exact wellFormed.call task (own apart)
  | idle => exact wellFormed
  | issued _ _ ui =>
    refine ⟨fun other mem => wellFormed.ui other ?_, fun operation mem => ?_,
      wellFormed.cookies, wellFormed.completions⟩
    · simp [ui, mem]
    · grind [List.mem_cons_self, wellFormed.operations, wellFormed.ui]
  | executed _ _ operations => exact execute_wellFormed wellFormed operations
  | completed _ _ _ completions completed =>
    exact complete_wellFormed wellFormed completions completed
  | performed _ _ _ _ _ performed =>
    obtain ⟨_, rfl⟩ := performIOTask_frame performed
    exact ⟨wellFormed.ui, wellFormed.operations, wellFormed.cookies, wellFormed.completions⟩

include timed

/-- What a step leads to, for the times that are requested. -/
theorem step_timed (clears : Clears store) (wellFormed : CookiesWellFormed store)
    (stepped : store.step input = some (after, events)) :
    ∃ requested, Timed (log ++ events) after requested := by
  have same : ∀ {last : WKHTTPSystemCookieStore}, Timed log last requested →
      ∃ requested, Timed (log ++ []) last requested := by
    grind
  cases step_moved stepped with
  | called _ _ _ => exact same ⟨timed.manager, timed.recorded, timed.last, timed.gone⟩
  | idle => exact same timed
  | issued _ _ _ =>
    refine same ⟨timed.manager, timed.recorded, timed.last, fun uniqueID none =>
      (timed.gone uniqueID none).imp id (Or.imp id ?_)⟩
    grind
  | executed _ _ operations =>
    exact same (execute_timed timed clears wellFormed operations)
  | completed _ _ _ completions completed =>
    exact same (complete_timed timed clears completions completed)
  | performed _ _ _ _ io performed => exact performIOTask_timed timed io performed

omit timed

/-- Every cookie that was set has the time of its last set, made unique, and no other cookie has
one but those that nobody set. -/
structure TimesKept (log : List CookieEvent) (store : WKHTTPSystemCookieStore) : Prop where
  unique : Consistent store.creationTimeManager
  kept : ∀ stored ∈ store.cookies, ∀ time, stored.requested = some time →
    ∃ unique, store.creationTimeManager.creationTimes (getCookieUniqueID stored.cookie) =
      some unique ∧ time ≤ unique ∧ LastRecorded log (getCookieUniqueID stored.cookie) time unique
  deleted : ∀ uniqueID, (∀ stored ∈ store.cookies, getCookieUniqueID stored.cookie ≠ uniqueID) →
    store.creationTimeManager.creationTimes uniqueID = none

include timed

theorem Timed.timesKept (quiescent : Quiescent store) : TimesKept log store := by
  have none : store.pendingTasks = [] := by
    unfold pendingTasks
    rw [quiescent.io, quiescent.completions]
    rfl
  have ended : ¬store.Clearing := by
    simp [Clearing, quiescent.completions, quiescent.operations]
  refine ⟨timed.manager, fun stored mem time has => ?_, fun uniqueID absent => ?_⟩
  · have final := timed.last stored mem time has
    rw [none] at final
    have recorded := timed.recorded (getCookieUniqueID stored.cookie)
    rw [show requested (getCookieUniqueID stored.cookie) = some time from final] at recorded
    cases now : store.creationTimeManager.creationTimes (getCookieUniqueID stored.cookie) with
    | none =>
      rw [now] at recorded
      cases recorded
    | some _ =>
      rw [now] at recorded
      cases recorded
      grind
  · have final := (timed.gone uniqueID fun stored mem same =>
      absurd same (absent stored mem)).resolve_right ended
    rw [none] at final
    have recorded := timed.recorded uniqueID
    rw [show requested uniqueID = Option.none from final] at recorded
    cases now : store.creationTimeManager.creationTimes uniqueID with
    | none => rfl
    | some _ =>
      rw [now] at recorded
      cases recorded

omit timed

variable (cookies : List NSHTTPCookie)

theorem timed_initial : Timed [] (initial cookies) fun _ => none := by
  refine ⟨consistent_initial, fun _ => .none, fun stored mem time has => ?_,
    fun _ _ => Or.inl rfl⟩
  grind [initial]

theorem clears_initial : Clears (initial cookies) :=
  ⟨fun _ => rfl, fun _ _ => rfl, fun _ _ => ⟨fun _ mem => absurd mem List.not_mem_nil,
    fun _ mem => absurd mem List.not_mem_nil⟩⟩

variable {cookies : List NSHTTPCookie}

theorem wellFormed_initial (wellFormed : ∀ cookie ∈ cookies, WellFormed cookie) :
    CookiesWellFormed (initial cookies) := by
  refine ⟨fun _ mem => absurd mem List.not_mem_nil, fun _ mem => absurd mem List.not_mem_nil,
    fun stored mem => ?_, fun _ mem => absurd mem List.not_mem_nil⟩
  obtain ⟨cookie, inside, rfl⟩ := List.mem_map.mp mem
  grind

/-- What holds after any run in which no set is missed by a clear. -/
theorem run_timed (run : Runs step SetsApart (initial cookies) log store)
    (wellFormed : ∀ cookie ∈ cookies, WellFormed cookie) :
    Clears store ∧ CookiesWellFormed store ∧ ∃ requested, Timed log store requested := by
  refine run.invariant_outputs
    (fun log store => Clears store ∧ CookiesWellFormed store ∧
      ∃ requested, Timed log store requested)
    (by grind [clears_initial, wellFormed_initial, timed_initial]) ?_
  rintro log store after input events - ⟨clears, wellFormed, requested, timed⟩ apart stepped
  exact ⟨step_clears clears apart stepped, step_wellFormed wellFormed apart stepped,
    step_timed timed clears wellFormed stepped⟩

/-- When nothing is on its way any more, the times are those of the last sets, unless a set was
missed by a clear. -/
theorem run_timesKept {cookies : List NSHTTPCookie}
    (run : Runs step SetsApart (initial cookies) log store)
    (wellFormed : ∀ cookie ∈ cookies, WellFormed cookie) (quiescent : Quiescent store) :
    TimesKept log store := by
  obtain ⟨-, -, _, timed⟩ := run_timed run wellFormed
  exact timed.timesKept quiescent

instance (cookie : NSHTTPCookie) : Decidable (WellFormed cookie) :=
  inferInstanceAs (Decidable (_ ∧ _))

instance (store : WKHTTPSystemCookieStore) (cookie : NSHTTPCookie) :
    Decidable (store.Covers cookie) :=
  decidable_of_iff
    ((∀ completion ∈ store.completions, ∀ cookies ∈ completion.snapshot?, cookies ≠ [] →
      ∃ other ∈ cookies, other.isSame cookie = true) ∧
    ∀ operation ∈ store.operations, ∀ clear ∈ operation.clear?,
      ∃ other ∈ store.operations, other.clears clear cookie = true)
    ⟨fun covers => ⟨covers.1, covers.2⟩, fun covers => ⟨covers.read, covers.issued⟩⟩

instance (store : WKHTTPSystemCookieStore) :
    (input : Input) → Decidable (SetsApart store input)
  | .setCookieAsync _ _ _ | .deleteCookieAsync _ => inferInstanceAs (Decidable (WellFormed _))
  | .executeOperation =>
    match head : store.operations.head? with
    | some (.setCookie cookie cookieTime) =>
      decidable_of_iff (store.Covers cookie)
        (by simp [SetsApart, head])
    | none | some (.deleteCookie _) | some .getAllCookies | some (.clearCookie _ _) =>
      isTrue fun cookie time same => by cases head.symm.trans same
  | .clearStoreAsync | .runUITask | .runCompletion | .runIOTask => isTrue trivial

def loginCookie : NSHTTPCookie := ⟨"login", "example.com", "/", none⟩

def themeCookie : NSHTTPCookie := ⟨"theme", "example.com", "/", none⟩

/-- A cookie is set anew behind a clear that the other one is deleted by. -/
theorem run_timesKept_afterClear : ∃ log store, TimesKept log store ∧
    store.cookies.map StoredCookie.cookie = [themeCookie] ∧
      (store.creationTimeManager.creationTimes "theme;example.com;/").map Subtype.val = some 7 := by
  have idle : Runs step SetsApart (initial [loginCookie, themeCookie]) []
    (initial [loginCookie, themeCookie]) := .start
  refine ⟨_, _, run_timesKept (idle.replay
    [.clearStoreAsync, .runUITask, .executeOperation, .runCompletion,
      .setCookieAsync themeCookie (some ⟨7, by decide⟩) ⟨9, by decide⟩, .runUITask,
      .executeOperation, .executeOperation, .executeOperation, .runCompletion, .runCompletion,
      .runCompletion, .runIOTask, .runIOTask]
    (Option.eq_some_of_isSome (by decide +kernel))) (by decide +kernel)
    ⟨rfl, rfl, rfl, rfl⟩, by decide +kernel, by decide +kernel⟩

/-- A cookie is set between the reading of a clear and its deletions, which leaves it without a
time. -/
theorem run_timeWiped : ¬ ∀ (log : List CookieEvent) (store : WKHTTPSystemCookieStore),
    Runs step (fun _ _ => True) (initial [loginCookie]) log store → Quiescent store →
      TimesKept log store := by
  intro keeps
  have idle : Runs step (fun _ _ => True) (initial [loginCookie]) []
    (initial [loginCookie]) := .start
  have kept := keeps _ _ (idle.replay
    [.clearStoreAsync, .setCookieAsync themeCookie (some ⟨7, by decide⟩) ⟨9, by decide⟩,
      .runUITask, .runUITask, .executeOperation, .executeOperation, .runCompletion,
      .executeOperation, .runCompletion, .runCompletion, .runIOTask, .runIOTask]
    (Option.eq_some_of_isSome (by decide +kernel))) ⟨rfl, rfl, rfl, rfl⟩
  obtain ⟨unique, has, -⟩ := kept.kept ⟨themeCookie, some ⟨7, by decide⟩⟩
    (by decide +kernel) ⟨7, by decide⟩ rfl
  exact absurd (Option.isSome_iff_exists.mpr ⟨unique, has⟩) (by decide +kernel)

end WKHTTPSystemCookieStore

end ChromiumIos
