import ChromiumIos.Net.Cookies.WKHTTPSystemCookieStore

/-!
# Clears of the cookies of WebKit

The changes of the creation times that are on their way are followed through the completions and
the IO thread.  The deletions of a clear are counted, and as long as no cookie is set behind its
back, a clear that has read the cookies is still to delete every cookie there is.
-/

namespace ChromiumIos

open Lib CookieCreationTimeManager

/-! ## Changes on their way -/

def CookieIOTask.after (uniqueID : String) (now : Option Time) : CookieIOTask → Option Time
  | .setCreationTime cookie cookieTime =>
    if getCookieUniqueID cookie = uniqueID then some cookieTime else now
  | .deleteCreationTime cookie => if getCookieUniqueID cookie = uniqueID then none else now
  | .clear => none

def finalRequest (uniqueID : String) (now : Option Time) (tasks : List CookieIOTask) :
    Option Time :=
  tasks.foldl (fun now task => task.after uniqueID now) now

namespace CookieCompletion

def isClearedOf (clear : Nat) : CookieCompletion → Bool
  | .cleared other => other = clear
  | _ => false

def snapshot? : CookieCompletion → Option (List NSHTTPCookie)
  | .gotAll cookies => some cookies
  | _ => none

/-- The tasks that completion handlers will post to the IO thread. -/
def tasks (remaining : Nat → Nat) : List CookieCompletion → List CookieIOTask
  | [] => []
  | .set cookie cookieTime :: rest => .setCreationTime cookie cookieTime :: tasks remaining rest
  | .deleted cookie :: rest => .deleteCreationTime cookie :: tasks remaining rest
  | .gotAll [] :: rest => .clear :: tasks remaining rest
  | .gotAll (_ :: _) :: rest => tasks remaining rest
  | .cleared clear :: rest =>
    if remaining clear = 1 then
      .clear :: tasks (Function.update remaining clear (remaining clear - 1)) rest
    else
      tasks (Function.update remaining clear (remaining clear - 1)) rest

end CookieCompletion

namespace CookieOperation

def clear? : CookieOperation → Option Nat
  | .clearCookie clear _ => some clear
  | _ => none

def isClearOf (clear : Nat) (operation : CookieOperation) : Bool :=
  operation.clear? = some clear

def clears (clear : Nat) (cookie : NSHTTPCookie) : CookieOperation → Bool
  | .clearCookie other deleted => other = clear ∧ deleted.isSame cookie
  | _ => false

def cookie? : CookieOperation → Option NSHTTPCookie
  | .setCookie cookie _ | .deleteCookie cookie | .clearCookie _ cookie => some cookie
  | .getAllCookies => none

end CookieOperation

open CookieCompletion CookieOperation

theorem finalRequest_append (uniqueID : String) (now : Option Time)
    (tasks more : List CookieIOTask) : finalRequest uniqueID now (tasks ++ more) =
      finalRequest uniqueID (finalRequest uniqueID now tasks) more :=
  List.foldl_append

/-- What remains of the counts when the completion handlers have run. -/
theorem tasks_concat (remaining : Nat → Nat) (completions : List CookieCompletion)
    (completion : CookieCompletion) : tasks remaining (completions ++ [completion]) =
      tasks remaining completions ++
        tasks (fun clear => remaining clear - completions.countP (isClearedOf clear))
          [completion] := by
  induction completions generalizing remaining with
  | nil => rfl
  | cons first rest ih =>
    cases first with
    | set cookie cookieTime | deleted cookie =>
      simp [tasks, isClearedOf, ih]
    | gotAll cookies =>
      cases cookies with
      | nil => exact congrArg (CookieIOTask.clear :: ·) (ih remaining)
      | cons _ _ => exact ih remaining
    | cleared clear =>
      have counts : (fun other =>
          Function.update remaining clear (remaining clear - 1) other -
            rest.countP (isClearedOf other)) =
          fun other => remaining other -
            (CookieCompletion.cleared clear :: rest).countP (isClearedOf other) := by
        funext other
        rw [List.countP_cons]
        by_cases same : clear = other
        · subst same
          rw [Function.update_self]
          simp only [isClearedOf, decide_true, if_true]
          omega
        · simp [Function.update_of_ne (Ne.symm same), isClearedOf, same]
      rw [List.cons_append, tasks, tasks, ih, counts]
      split
      · rfl
      · rfl

/-- Only the counts of clears with completions to come matter. -/
theorem tasks_congr {remaining other : Nat → Nat} {completions : List CookieCompletion}
    (same : ∀ clear, .cleared clear ∈ completions → remaining clear = other clear) :
    tasks remaining completions = tasks other completions := by
  induction completions generalizing remaining other with
  | nil => rfl
  | cons first rest ih =>
    have later : ∀ clear, .cleared clear ∈ rest → remaining clear = other clear :=
      fun clear mem => same clear (List.mem_cons_of_mem _ mem)
    cases first with
    | set cookie cookieTime | deleted cookie =>
      grind [tasks]
    | gotAll cookies =>
      cases cookies with
      | nil => exact congrArg (CookieIOTask.clear :: ·) (ih later)
      | cons _ _ => exact ih later
    | cleared clear =>
      have counted : ∀ next, .cleared next ∈ rest →
          Function.update remaining clear (remaining clear - 1) next =
            Function.update other clear (other clear - 1) next := by
        grind
      grind [tasks]

/-! ## Clears -/

namespace WKHTTPSystemCookieStore

variable {store after : WKHTTPSystemCookieStore} {log events : List CookieEvent} {input : Input}
variable {uniqueID : String}

/-- Every clear that has read the cookies and has not deleted all of them is still to delete
this one. -/
structure Covers (store : WKHTTPSystemCookieStore) (cookie : NSHTTPCookie) : Prop where
  read : ∀ completion ∈ store.completions, ∀ cookies ∈ completion.snapshot?, cookies ≠ [] →
    ∃ other ∈ cookies, other.isSame cookie = true
  issued : ∀ operation ∈ store.operations, ∀ clear ∈ operation.clear?,
    ∃ other ∈ store.operations, other.clears clear cookie = true

structure Clears (store : WKHTTPSystemCookieStore) : Prop where
  counts : ∀ clear, store.remainingCookiesToClearCount clear =
    store.operations.countP (isClearOf clear) + store.completions.countP (isClearedOf clear)
  unused : ∀ clear, store.nextClear ≤ clear → store.remainingCookiesToClearCount clear = 0
  covers : ∀ stored ∈ store.cookies, store.Covers stored.cookie

def Clearing (store : WKHTTPSystemCookieStore) : Prop :=
  (∃ completion ∈ store.completions, ∃ cookies ∈ completion.snapshot?, cookies ≠ []) ∨
    ∃ operation ∈ store.operations, operation.clear?.isSome = true

/-- What a set is executed for: a cookie that no clear in progress will have missed; and
the name and the domain of a cookie have no separator. -/
def SetsApart (store : WKHTTPSystemCookieStore) : Input → Prop
  | .setCookieAsync cookie _ _ | .deleteCookieAsync cookie => WellFormed cookie
  | .executeOperation => ∀ cookie cookieTime,
      store.operations.head? = some (.setCookie cookie cookieTime) → store.Covers cookie
  | _ => True

theorem isSame_refl (cookie : NSHTTPCookie) : cookie.isSame cookie = true :=
  decide_eq_true ⟨rfl, rfl, rfl⟩

variable {cookie : NSHTTPCookie} {operation : CookieOperation} {completion : CookieCompletion}
variable {rest : List CookieCompletion}

theorem isSame_iff {other : NSHTTPCookie} (wf : WellFormed cookie) (wfOther : WellFormed other) :
    cookie.isSame other = true ↔ getCookieUniqueID cookie = getCookieUniqueID other := by
  constructor
  · intro same
    obtain ⟨name, domain, path⟩ := of_decide_eq_true same
    simp [getCookieUniqueID, name, domain, path]
  · exact fun same => decide_eq_true (getCookieUniqueID_inj wf wfOther same)

theorem clear?_eq_none_of_issue (task : CookieUITask) : (issue task).clear? = none := by
  cases task with
  | setCookie cookie cookieTime | deleteCookie cookie | clear => rfl

/-- Operations that delete for no clear, and completions that have read nothing, cover what was
covered. -/
theorem Covers.grow (covers : store.Covers cookie)
    (completions : ∀ completion ∈ after.completions, completion ∈ store.completions ∨
      completion.snapshot? = none)
    (operations : ∀ operation ∈ after.operations, operation ∈ store.operations ∨
      operation.clear? = none)
    (kept : ∀ operation ∈ store.operations, ∀ clear, operation.clear? = some clear →
      operation ∈ after.operations) : after.Covers cookie := by
  refine ⟨fun completion mem cookies read some => ?_, fun operation mem clear has => ?_⟩
  · grind [covers.read]
  · rcases operations operation mem with old | none
    · obtain ⟨other, inside, clears⟩ := covers.issued operation old clear has
      refine ⟨other, kept other inside clear ?_, clears⟩
      cases other with
      | clearCookie _ _ =>
        rw [(of_decide_eq_true clears).1]
        rfl
      | setCookie | deleteCookie | getAllCookies => cases clears
    · rw [none] at has
      cases has

theorem isClearOf_of_none (none : operation.clear? = none) (clear : Nat) :
    operation.isClearOf clear = false := by
  rw [isClearOf, none]
  rfl

/-- An operation that deletes for no clear is executed, on cookies that were there or are now
covered. -/
theorem Clears.execute {rest : List CookieOperation} {cookies : List StoredCookie}
    (clears : Clears store) (operations : store.operations = operation :: rest)
    (none : operation.clear? = none) (uncounted : ∀ clear, completion.isClearedOf clear = false)
    (read : ∀ snapshot ∈ completion.snapshot?, ∀ stored ∈ cookies,
      ∃ other ∈ snapshot, other.isSame stored.cookie = true)
    (covers : ∀ stored ∈ cookies, store.Covers stored.cookie) :
    Clears { store with
      operations := rest
      cookies := cookies
      completions := store.completions ++ [completion] } := by
  refine ⟨fun clear => ?_, clears.unused, fun stored mem =>
    ⟨fun done inside snapshot has some => ?_, fun other inside clear has => ?_⟩⟩
  · grind [isClearOf_of_none, clears.counts]
  · rcases List.mem_append.mp inside with old | new
    · exact (covers stored mem).read done old snapshot has some
    · grind
  · obtain ⟨last, inside, deletes⟩ := (covers stored mem).issued other
      (by rw [operations]; exact List.mem_cons_of_mem _ inside) clear has
    rw [operations] at inside
    rcases List.mem_cons.mp inside with rfl | later
    · cases last with
      | clearCookie _ _ => cases none
      | setCookie | deleteCookie | getAllCookies => cases deletes
    · exact ⟨last, later, deletes⟩

variable {clear : Nat}

/-- A clear deletes one of its cookies, which is not there afterwards. -/
theorem Clears.executeClear {rest : List CookieOperation} (clears : Clears store)
    (operations : store.operations = .clearCookie clear cookie :: rest) :
    Clears { store with
      operations := rest
      cookies := store.others cookie
      completions := store.completions ++ [.cleared clear] } := by
  refine ⟨fun other => ?_, clears.unused, fun stored mem => ?_⟩
  · have counts := clears.counts other
    rw [operations, List.countP_cons] at counts
    rw [List.countP_append, List.countP_singleton]
    by_cases same : clear = other
    · simp only [isClearOf, isClearedOf, clear?, same, decide_true, if_true] at counts ⊢
      omega
    · have different : ¬(some clear = some other) := fun eq => same (Option.some.inj eq)
      simp only [isClearOf, isClearedOf, clear?, same, different, decide_false] at counts ⊢
      simpa using counts
  · obtain ⟨inside, apart⟩ := List.mem_filter.mp mem
    have covers := clears.covers stored inside
    refine ⟨fun done mem snapshot has some => ?_, fun other mem number has => ?_⟩
    · rcases List.mem_append.mp mem with old | new
      · exact covers.read done old snapshot has some
      · cases List.mem_singleton.mp new
        cases has
    · obtain ⟨last, found, deletes⟩ := covers.issued other
        (by rw [operations]; exact List.mem_cons_of_mem _ mem) number has
      rw [operations] at found
      rcases List.mem_cons.mp found with rfl | later
      · have same := (of_decide_eq_true deletes).2
        rw [same] at apart
        cases apart
      · exact ⟨last, later, deletes⟩

theorem execute_clears {rest : List CookieOperation} (clears : Clears store)
    (operations : store.operations = operation :: rest)
    (apart : SetsApart store .executeOperation) :
    Clears (({ store with operations := rest } : WKHTTPSystemCookieStore).execute operation) := by
  have others : ∀ cookie, ∀ stored ∈ store.others cookie, store.Covers stored.cookie :=
    fun cookie stored mem => clears.covers stored (List.mem_filter.mp mem).1
  cases operation with
  | setCookie cookie cookieTime =>
    refine clears.execute operations rfl (fun _ => rfl) (fun _ none => by cases none) ?_
    intro stored mem
    rcases List.mem_append.mp mem with old | new
    · exact others cookie stored old
    · cases List.mem_singleton.mp new
      exact apart cookie cookieTime (by rw [operations]; rfl)
  | deleteCookie cookie =>
    exact clears.execute operations rfl (fun _ => rfl) (fun _ none => by cases none)
      (others cookie)
  | getAllCookies =>
    refine clears.execute operations rfl (fun _ => rfl) ?_ clears.covers
    grind [snapshot?, List.mem_map_of_mem, isSame_refl]
  | clearCookie _ _ => exact clears.executeClear operations

variable {io : List CookieIOTask}

/-- A completion handler that only posts a task. -/
theorem Clears.completed (clears : Clears store)
    (completions : store.completions = completion :: rest)
    (uncounted : ∀ clear, completion.isClearedOf clear = false) :
    Clears { store with completions := rest, io := io } := by
  refine ⟨fun clear => ?_, clears.unused, fun stored mem => ?_⟩
  · simp [completions, uncounted, clears.counts]
  · refine (clears.covers stored mem).grow (fun other inside => Or.inl ?_) (fun _ => Or.inl)
      fun _ mem _ _ => mem
    rw [completions]
    exact List.mem_cons_of_mem _ inside

/-- The cookies that were read are deleted, each by an operation of its own. -/
theorem Clears.issue {cookies : List NSHTTPCookie} (clears : Clears store)
    (completions : store.completions = .gotAll cookies :: rest) (some : cookies ≠ []) :
    Clears { store with
      completions := rest
      nextClear := store.nextClear + 1
      remainingCookiesToClearCount :=
        Function.update store.remainingCookiesToClearCount store.nextClear cookies.length
      operations := store.operations ++ cookies.map (.clearCookie store.nextClear) } := by
  have count : ∀ clear, (cookies.map (CookieOperation.clearCookie store.nextClear)).countP
      (isClearOf clear) = if store.nextClear = clear then cookies.length else 0 := by
    intro clear
    rw [List.countP_map]
    split
    · next same =>
      subst same
      exact List.countP_eq_length.mpr fun cookie _ => decide_eq_true rfl
    · next different =>
      refine List.countP_eq_zero.mpr fun cookie _ found => different ?_
      exact Option.some.inj (of_decide_eq_true found)
  refine ⟨fun clear => ?_, fun clear later => ?_, fun stored mem => ?_⟩
  · have counts := clears.counts clear
    rw [completions, List.countP_cons] at counts
    rw [List.countP_append, count]
    change Function.update store.remainingCookiesToClearCount store.nextClear cookies.length clear =
      _ + rest.countP _
    by_cases same : store.nextClear = clear
    · subst same
      rw [clears.unused _ (Nat.le_refl _)] at counts
      rw [Function.update_self, if_pos rfl]
      omega
    · rw [Function.update_of_ne (Ne.symm same), if_neg same]
      exact counts
  · grind [clears.unused]
  · have covers := clears.covers stored mem
    refine ⟨fun done inside snapshot has some => ?_, fun operation inside clear has => ?_⟩
    · grind [covers.read]
    · rcases List.mem_append.mp inside with old | new
      · grind [covers.issued]
      · obtain ⟨_, -, rfl⟩ := List.mem_map.mp new
        cases has
        obtain ⟨_, found, same⟩ := covers.read (.gotAll cookies)
          (by rw [completions]; exact List.mem_cons_self) cookies rfl some
        exact ⟨_, List.mem_append_right _ (List.mem_map_of_mem found), decide_eq_true ⟨rfl, same⟩⟩

/-- One of the deletions of a clear is counted. -/
theorem Clears.counted (clears : Clears store)
    (completions : store.completions = .cleared clear :: rest) :
    Clears { store with
      completions := rest
      remainingCookiesToClearCount := Function.update store.remainingCookiesToClearCount clear
        (store.remainingCookiesToClearCount clear - 1)
      io := io } := by
  have counts : ∀ other, store.remainingCookiesToClearCount other =
      store.operations.countP (isClearOf other) + (rest.countP (isClearedOf other) +
        if clear = other then 1 else 0) := by
    simp [completions, List.countP_cons, isClearedOf, clears.counts]
  refine ⟨fun other => ?_, fun other later => ?_, fun stored mem => ?_⟩
  · grind
  · grind [clears.unused]
  · refine (clears.covers stored mem).grow (fun done inside => Or.inl ?_) (fun _ => Or.inl)
      fun _ mem _ _ => mem
    rw [completions]
    exact List.mem_cons_of_mem _ inside

theorem complete_clears (clears : Clears store)
    (completions : store.completions = completion :: rest)
    (completed : ({ store with completions := rest } : WKHTTPSystemCookieStore).complete
      completion = some after) : Clears after := by
  cases completion with
  | set cookie cookieTime | deleted cookie =>
    cases completed
    exact clears.completed completions fun _ => rfl
  | gotAll _ =>
    unfold complete at completed
    dsimp only at completed
    split at completed
    · cases completed
      exact clears.completed completions fun _ => rfl
    · next some =>
      grind [clears.issue]
  | cleared _ =>
    unfold complete at completed
    dsimp only at completed
    split at completed
    · cases completed
    · split at completed
      · cases completed
        exact clears.counted completions
      · cases completed
        exact clears.counted completions

/-- Calls and tasks of the IO thread have nothing to do with clears. -/
theorem Clears.frame (clears : Clears store) (ui : List CookieUITask) (io : List CookieIOTask)
    (manager : CookieCreationTimeManager) :
    Clears { store with ui := ui, io := io, creationTimeManager := manager } :=
  ⟨clears.counts, clears.unused, fun stored mem =>
    ⟨(clears.covers stored mem).read, (clears.covers stored mem).issued⟩⟩

theorem performIOTask_frame {task : CookieIOTask}
    (performed : store.performIOTask task = some (after, events)) :
    ∃ manager, after = { store with creationTimeManager := manager } := by
  cases task with
  | setCreationTime _ _ =>
    obtain ⟨_, -, performed⟩ := bind_eq_some performed
    obtain ⟨manager, -, performed⟩ := bind_eq_some performed
    cases performed
    exact ⟨manager, rfl⟩
  | deleteCreationTime _ =>
    obtain ⟨manager, -, performed⟩ := bind_eq_some performed
    cases performed
    exact ⟨manager, rfl⟩
  | clear =>
    cases performed
    exact ⟨_, rfl⟩

/-! ## Steps -/

/-- A step is a call, the next one in a queue, or nothing if the queue is empty. -/
inductive Moved (store : WKHTTPSystemCookieStore) :
    Input → WKHTTPSystemCookieStore → List CookieEvent → Prop where
  | called (input : Input) (task : CookieUITask)
      (own : SetsApart store input → ∀ cookie ∈ (issue task).cookie?, WellFormed cookie) :
      Moved store input { store with ui := store.ui ++ [task] } []
  | idle (input : Input) : Moved store input store []
  | issued (task : CookieUITask) (rest : List CookieUITask) (ui : store.ui = task :: rest) :
      Moved store .runUITask
        { store with ui := rest, operations := store.operations ++ [issue task] } []
  | executed (operation : CookieOperation) (rest : List CookieOperation)
      (operations : store.operations = operation :: rest) :
      Moved store .executeOperation
        (({ store with operations := rest } : WKHTTPSystemCookieStore).execute operation) []
  | completed (completion : CookieCompletion) (rest : List CookieCompletion)
      (after : WKHTTPSystemCookieStore) (completions : store.completions = completion :: rest)
      (completed : ({ store with completions := rest } : WKHTTPSystemCookieStore).complete
        completion = some after) : Moved store .runCompletion after []
  | performed (task : CookieIOTask) (rest : List CookieIOTask) (after : WKHTTPSystemCookieStore)
      (events : List CookieEvent) (io : store.io = task :: rest)
      (performed : ({ store with io := rest } : WKHTTPSystemCookieStore).performIOTask task =
        some (after, events)) : Moved store .runIOTask after events

theorem step_moved (stepped : store.step input = some (after, events)) :
    Moved store input after events := by
  cases input with
  | setCookieAsync cookie optionalCreationTime now | deleteCookieAsync cookie =>
    cases stepped
    refine .called _ _ fun wf other same => ?_
    cases same
    exact wf
  | clearStoreAsync =>
    cases stepped
    exact .called _ _ fun _ _ none => by cases none
  | runUITask =>
    unfold step at stepped
    dsimp only at stepped
    split at stepped
    · cases stepped
      exact .idle _
    · next task rest ui =>
      cases stepped
      exact .issued task rest ui
  | executeOperation =>
    unfold step at stepped
    dsimp only at stepped
    split at stepped
    · cases stepped
      exact .idle _
    · next operation rest operations =>
      cases stepped
      exact .executed operation rest operations
  | runCompletion =>
    unfold step at stepped
    dsimp only at stepped
    split at stepped
    · cases stepped
      exact .idle _
    · next completion rest completions =>
      obtain ⟨_, completed, same⟩ := Option.map_eq_some_iff.mp stepped
      cases same
      exact .completed completion rest _ completions completed
  | runIOTask =>
    unfold step at stepped
    dsimp only at stepped
    split at stepped
    · cases stepped
      exact .idle _
    · next task rest io => exact .performed task rest _ _ io stepped

theorem step_clears (clears : Clears store) (apart : SetsApart store input)
    (stepped : store.step input = some (after, events)) : Clears after := by
  cases step_moved stepped with
  | called _ _ _ => exact clears.frame _ _ _
  | idle => exact clears
  | issued task _ _ =>
    have none := clear?_eq_none_of_issue task
    refine ⟨fun clear => ?_, clears.unused, fun stored mem => ?_⟩
    · simp [isClearOf_of_none none, clears.counts]
    · refine (clears.covers stored mem).grow (fun _ => Or.inl) (fun operation mem => ?_)
        fun _ mem _ _ => List.mem_append_left _ mem
      grind
  | executed _ _ operations => exact execute_clears clears operations apart
  | completed _ _ _ completions completed =>
    exact complete_clears clears completions completed
  | performed _ _ _ _ _ _ =>
    grind [performIOTask_frame, clears.frame]

end WKHTTPSystemCookieStore

end ChromiumIos
