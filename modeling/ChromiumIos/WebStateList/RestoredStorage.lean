import ChromiumIos.WebStateList.SerializationRoundTrip

/-!
# Saving a restored list

Once a list has been restored, its WebStates are moved, closed and opened, and
some of them are loaded; the list is saved again at any time in between.  Saving
writes the current openers to the user data of every WebState.  A WebState that
was restored with the slim navigation manager and has not been loaded answers
with the storage it was restored from, which this write does not reach: what is
saved for it is right only as long as its opener is where it was when the
storage was made.
-/

namespace ChromiumIos.WebStateList

open Lib

variable {W C : Type} [DecidableEq W]
variable {list after : WebStateList W} {slim : Bool} {impl : W → WebStateImpl C}

/-! ## Restoring keeps a list well formed -/

theorem insertSessionsLoop_wellFormed {lastCommitted : W → Int}
    {webStateFactory : WebStateFactory W C} {sessions : List (CRWSessionStorage C)} {call : Nat}
    {impl' : W → WebStateImpl C} (wf : list.WellFormed)
    (fresh : ∀ later session, call ≤ later →
      (webStateFactory later session).1 ∉ list.webStates)
    (distinct : ∀ {call call' session session'},
      (webStateFactory call session).1 = (webStateFactory call' session').1 → call = call')
    (room : list.count + sessions.length ≤ intMax)
    (inserted : insertSessionsLoop lastCommitted webStateFactory sessions call (list, impl) =
      some (after, impl')) : after.WellFormed := by
  induction sessions generalizing list call impl with
  | nil =>
    cases inserted
    exact wf
  | cons session _ ih =>
    unfold insertSessionsLoop at inserted
    have appended := insertWebState_at_end lastCommitted wf.active
      (webStateFactory call session).1
    have extended : WellFormed ⟨list.webStateWrappers ++
        [⟨(webStateFactory call session).1, .null⟩], list.activeIndex⟩ := by
      have new := fresh call session (Nat.le_refl _)
      have nonneg : 0 ≤ list.count := Int.natCast_nonneg _
      rw [List.length_cons] at room
      refine @step_wellFormed _ _ list _ _ ⟨lastCommitted, .insertWebState list.count
        (webStateFactory call session).1 insertForceIndex .null⟩ wf ?_ appended
      grind [Admissible, WebStateOpener.null]
    simp only [appended, Option.bind_eq_bind, Option.bind_some] at inserted
    refine ih extended ?_ ?_ inserted
    · grind [webStates]
    · grind [count]

omit [DecidableEq W] in
theorem restoredOpener_known {oldCount : Int} {wrapper : WebStateWrapper W}
    (known : ∀ opening ∈ wrapper.opener.opener, opening ∈ list.webStates) :
    ∀ opening ∈ (restoredOpener impl oldCount list.webStates wrapper).opener,
      opening ∈ list.webStates := by
  grind [restoredOpener, mem_of_at?]

theorem restoreOpenersLoop_wellFormed {oldCount index : Int} {remaining : Nat}
    (wf : list.WellFormed) (nonneg : 0 ≤ oldCount)
    (looped : restoreOpenersLoop impl oldCount remaining index list = some after) :
    after.WellFormed := by
  induction remaining generalizing list index with
  | zero =>
    cases looped
    exact wf
  | succ _ ih =>
    obtain ⟨_, restored, continued⟩ := Option.bind_eq_some_iff.mp looped
    obtain ⟨_, read, _⟩ := Option.bind_eq_some_iff.mp restored
    obtain ⟨wrapper, taken, _⟩ := Option.map_eq_some_iff.mp read
    rw [restoreOpenerAt_eq nonneg taken] at restored
    cases restored
    refine ih ?_ continued
    exact wf.setOpener taken (restoredOpener_known (wf.known wrapper (mem_of_at? taken)))

theorem restoreSelection_wellFormed {window : SessionWindowIOS C} {oldCount : Int}
    (wf : list.WellFormed) (selected : restoreSelection window oldCount list = some after) :
    after.WellFormed := by
  unfold restoreSelection at selected
  split at selected
  · obtain ⟨_, selected⟩ := dcheck_bind_eq_some.mp selected
    obtain ⟨_, selected⟩ := dcheck_bind_eq_some.mp selected
    obtain ⟨⟨_, _⟩, returned, result⟩ := Option.bind_eq_some_iff.mp selected
    cases result
    obtain ⟨inside, _⟩ := dcheck_bind_eq_some.mp returned
    exact @step_wellFormed _ _ list _ _ ⟨fun _ => 0, .activateWebStateAt _⟩ wf inside returned
  · cases selected
    exact wf

theorem deserializeWebStateList_wellFormed {lastCommitted : W → Int}
    {webStateFactory : WebStateFactory W C} {window : SessionWindowIOS C}
    {impl' : W → WebStateImpl C} (wf : list.WellFormed) (makes : MakesFresh webStateFactory list)
    (room : list.count + window.sessions.length ≤ intMax)
    (restored : deserializeWebStateList lastCommitted webStateFactory impl list window =
      some (after, impl')) : after.WellFormed := by
  obtain ⟨⟨_, _⟩, inserted, restored⟩ := Option.bind_eq_some_iff.mp restored
  obtain ⟨_, looped, restored⟩ := Option.bind_eq_some_iff.mp restored
  obtain ⟨_, selected, result⟩ := Option.bind_eq_some_iff.mp restored
  cases result
  have firstWf := insertSessionsLoop_wellFormed wf
    (fun later session _ => makes.fresh later session) makes.distinct room inserted
  have secondWf := restoreOpenersLoop_wellFormed firstWf (Int.natCast_nonneg _) looped
  exact restoreSelection_wellFormed secondWf selected

end ChromiumIos.WebStateList

/-! ## Runs of a restored window -/

namespace ChromiumIos

open Lib

structure WindowState (W C : Type) where
  list : WebStateList W
  impl : W → WebStateImpl C

inductive WindowInput (W C : Type) where
  | operate (input : WebStateList.Input W)
  | commit (webState : W) (isWKInternalUrl : Bool) (content : C)
  | save

namespace WindowState

open WebStateList

variable {W C : Type} [DecidableEq W]

def step (slim : Bool) (state : WindowState W C) :
    WindowInput W C → Checked (WindowState W C × List (Notification W))
  | .operate input =>
    (state.list.step input).map fun (list, notifications) =>
      ({ state with list := list }, notifications)
  | .commit webState isWKInternalUrl content =>
    let committed := (state.impl webState).onNavigationItemCommitted slim isWKInternalUrl
    some ({ state with
      impl := Function.update state.impl webState { committed with content := content } }, [])
  | .save =>
    (serializeWebStateList slim state.impl state.list).map fun (_, impl) =>
      ({ state with impl := impl }, [])

def Admissible (state : WindowState W C) : WindowInput W C → Prop
  | .operate input => state.list.Admissible input
  | .commit _ _ _ | .save => True

instance (state : WindowState W C) (input : WindowInput W C) : Decidable (state.Admissible input) :=
  match input with
  | .operate input => inferInstanceAs (Decidable (state.list.Admissible input))
  | .commit _ _ _ | .save => inferInstanceAs (Decidable True)

abbrev Run (slim : Bool) (initial : WindowState W C) (notifications : List (Notification W))
    (state : WindowState W C) : Prop :=
  Runs (step slim) Admissible initial notifications state

def restoringFactory (slim : Bool) (identity : Nat → W) : WebStateFactory W C :=
  fun call session => (identity call, WebStateImpl.restoreSessionStorage slim session)

/-- A window whose list has just been restored from stored sessions. -/
structure Restored (slim : Bool) (window : SessionWindowIOS C) (identity : Nat → W)
    (initial : WindowState W C) : Prop where
  distinct : Function.Injective identity
  restored : ∃ lastCommitted earlier before impl, WebStateList.Run earlier before ∧
    (∀ call, identity call ∉ before.webStates) ∧
    before.count + window.sessions.length ≤ intMax ∧
    deserializeWebStateList lastCommitted (restoringFactory slim identity) impl before window =
      some (initial.list, initial.impl)

variable {slim : Bool} {window : SessionWindowIOS C} {identity : Nat → W}
variable {initial state after : WindowState W C} {notifications : List (Notification W)}

omit [DecidableEq W] in
theorem restoringFactory_makesFresh (distinct : Function.Injective identity)
    {before : WebStateList W} (fresh : ∀ call, identity call ∉ before.webStates) :
    MakesFresh (restoringFactory (C := C) slim identity) before where
  fresh := fun call _ => fresh call
  distinct := fun same => distinct same
  userData := fun _ _ => rfl

def KeepsRestored (window : SessionWindowIOS C) (identity : Nat → W)
    (state : WindowState W C) : Prop :=
  ∀ (position : Nat) session, window.sessions[position]? = some session →
    ∀ kept, (state.impl (identity position)).restoredSessionStorage = some kept → kept = session

theorem Restored.wellFormed (restored : Restored slim window identity initial) :
    initial.list.WellFormed := by
  obtain ⟨distinct, _, _, _, _, run, fresh, room, deserialized⟩ := restored
  exact deserializeWebStateList_wellFormed (WebStateList.Run.wellFormed run)
    (restoringFactory_makesFresh distinct fresh) room deserialized

theorem Restored.keepsRestored (restored : Restored slim window identity initial) :
    KeepsRestored window identity initial := by
  obtain ⟨distinct, lastCommitted, _, before, impl, run, fresh, room, deserialized⟩ := restored
  have makes : MakesFresh (restoringFactory (C := C) slim identity) before :=
    restoringFactory_makesFresh distinct fresh
  obtain ⟨impl', inserted, _, made⟩ := insertSessionsLoop_eq lastCommitted
    (restoringFactory slim identity) makes.distinct window.sessions 0
    (WebStateList.Run.wellFormed run).active impl
  obtain ⟨⟨first, made'⟩, inserted', deserialized⟩ := Option.bind_eq_some_iff.mp deserialized
  obtain ⟨second, _, deserialized⟩ := Option.bind_eq_some_iff.mp deserialized
  obtain ⟨third, _, result⟩ := Option.bind_eq_some_iff.mp deserialized
  cases Option.some.inj (inserted.symm.trans inserted')
  have same : impl' = initial.impl := (Prod.mk.inj (Option.some.inj result)).2
  intro position session found kept cached
  have created := made position session found
  rw [Nat.zero_add] at created
  have restoredState : initial.impl (identity position) =
      WebStateImpl.restoreSessionStorage slim session := by
    rw [← same]
    exact created
  grind [WebStateImpl.restoreSessionStorage]

/-! ## What a run keeps -/

theorem serializeLoop_restoredSessionStorage {list : WebStateList W}
    {wrappers : List (WebStateWrapper W)} {impl impl' : W → WebStateImpl C}
    {sessions : List (CRWSessionStorage C)}
    (looped : serializeLoop slim list wrappers impl = some (sessions, impl')) (webState : W) :
    (impl' webState).restoredSessionStorage = (impl webState).restoredSessionStorage := by
  induction wrappers generalizing impl sessions with
  | nil =>
    cases looped
    rfl
  | cons _ _ _ =>
    obtain ⟨userData, _, looped⟩ := Option.bind_eq_some_iff.mp looped
    obtain ⟨⟨more, final⟩, continued, result⟩ := Option.bind_eq_some_iff.mp looped
    grind

theorem step_wellFormed {input : WindowInput W C} (wf : state.list.WellFormed)
    (admissible : state.Admissible input)
    (stepped : state.step slim input = some (after, notifications)) :
    after.list.WellFormed := by
  cases input with
  | operate _ =>
    obtain ⟨⟨list, emitted⟩, operated, result⟩ := Option.map_eq_some_iff.mp stepped
    cases result
    exact WebStateList.step_wellFormed wf admissible operated
  | commit _ _ _ =>
    cases stepped
    exact wf
  | save =>
    obtain ⟨⟨saved, impl⟩, _, result⟩ := Option.map_eq_some_iff.mp stepped
    grind

theorem step_restoredSessionStorage {input : WindowInput W C}
    (stepped : state.step slim input = some (after, notifications)) (webState : W) :
    (after.impl webState).restoredSessionStorage = none ∨
      (after.impl webState).restoredSessionStorage =
        (state.impl webState).restoredSessionStorage := by
  cases input with
  | operate _ =>
    obtain ⟨⟨list, emitted⟩, _, result⟩ := Option.map_eq_some_iff.mp stepped
    cases result
    exact .inr rfl
  | commit _ _ _ =>
    cases stepped
    grind [WebStateImpl.onNavigationItemCommitted]
  | save =>
    obtain ⟨⟨_, _⟩, serialized, result⟩ := Option.map_eq_some_iff.mp stepped
    cases result
    obtain ⟨⟨_, _⟩, loop, serialized⟩ := Option.bind_eq_some_iff.mp serialized
    obtain ⟨_, _, result⟩ := Option.bind_eq_some_iff.mp serialized
    cases result
    exact .inr (serializeLoop_restoredSessionStorage loop webState)

theorem Run.invariant (restored : Restored slim window identity initial)
    (run : Run slim initial notifications state) :
    state.list.WellFormed ∧ KeepsRestored window identity state := by
  refine Runs.invariant (fun state => state.list.WellFormed ∧
    KeepsRestored window identity state) run ⟨restored.wellFormed, restored.keepsRestored⟩ ?_
  intro state after input emitted holds admissible stepped
  refine ⟨step_wellFormed holds.1 admissible stepped, ?_⟩
  intro position session found kept cached
  rcases step_restoredSessionStorage stepped (identity position) with loaded | same
  · rw [loaded] at cached
    cases cached
  · exact holds.2 position session found kept (same.symm.trans cached)

/-! ## What a save records -/

def RecordsOpener (list : WebStateList W) (wrapper : WebStateWrapper W)
    (session : CRWSessionStorage C) : Prop :=
  storedOpener session.userData = list.openerRecord wrapper.opener

/--
The storage that is returned instead of a new one, if there is one, was made
when the opener of the WebState had the index and the navigation index that it
has now.
-/
def KeptUpToDate (slim : Bool) (state : WindowState W C) (wrapper : WebStateWrapper W) : Prop :=
  slim = true → ∀ kept, (state.impl wrapper.webState).restoredSessionStorage = some kept →
    storedOpener kept.userData = state.list.openerRecord wrapper.opener

theorem savedSession_recordsOpener_iff {wrapper : WebStateWrapper W}
    (wf : state.list.WellFormed) (member : wrapper ∈ state.list.webStateWrappers) :
    RecordsOpener state.list wrapper (savedSession slim state.impl state.list wrapper) ↔
      KeptUpToDate slim state wrapper := by
  have written : storedOpener (withOpenerWritten state.impl state.list wrapper).userData = _ :=
    storedOpener_withOpenerWritten wf member
  have same : (withOpenerWritten state.impl state.list wrapper).restoredSessionStorage =
      (state.impl wrapper.webState).restoredSessionStorage := rfl
  simp only [RecordsOpener, KeptUpToDate, savedSession, WebStateImpl.buildSessionStorage]
  rw [same]
  cases slim with
  | false => simpa [WebStateImpl.buildStorage] using written
  | true =>
    cases (state.impl wrapper.webState).restoredSessionStorage with
    | none => simpa [WebStateImpl.buildStorage] using written
    | some _ =>
      simp

/--
After every run of a restored window a save records the current opener of a
WebState exactly if the storage kept for it, if any, is up to date; and the
storage kept for a restored WebState is still the one it was restored from.
-/
theorem save_recordsOpener_iff (restored : Restored slim window identity initial)
    (run : Run slim initial notifications state)
    (selected : state.list.webStateWrappers = [] ∨ state.list.activeIndex ≠ kInvalidIndex) :
    KeepsRestored window identity state ∧
    ∃ saved impl, serializeWebStateList slim state.impl state.list = some (saved, impl) ∧
      saved.sessions.length = state.list.webStateWrappers.length ∧
      ∀ (position : Nat) wrapper session, state.list.webStateWrappers[position]? = some wrapper →
        saved.sessions[position]? = some session →
        (RecordsOpener state.list wrapper session ↔ KeptUpToDate slim state wrapper) := by
  obtain ⟨wf, keeps⟩ := Run.invariant restored run
  obtain ⟨saved, impl, serialized, sessions, _⟩ :=
    serializeWebStateList_eq slim state.impl wf selected
  grind [savedSession_recordsOpener_iff]

/-- Three sessions, the second of which was opened by the first. -/
def storedWindow : SessionWindowIOS Unit where
  sessions :=
    [⟨(), .empty⟩,
      ⟨(), (SerializableUserData.empty.addSerializableData (.number 0)
        kOpenerIndexKey).addSerializableData (.number 4) kOpenerNavigationIndexKey⟩,
      ⟨(), .empty⟩]
  selectedIndex := 0
  valid := by decide

/-- The list restored from these sessions. -/
def storedTabs : WebStateList Nat := ⟨[⟨0, .null⟩, ⟨1, ⟨some 0, 4⟩⟩, ⟨2, .null⟩], 0⟩

theorem restored_storedWindow :
    ∃ impl, Restored true storedWindow (fun call => call) ⟨storedTabs, impl⟩ ∧
      (impl 1).restoredSessionStorage = storedWindow.sessions[1]? := by
  have lists : (deserializeWebStateList (fun _ => 0) (restoringFactory true fun call => call)
      (fun _ => ⟨.empty, (), none⟩) empty storedWindow).map Prod.fst = some storedTabs := by
    decide
  have kept : (deserializeWebStateList (fun _ => 0) (restoringFactory true fun call => call)
      (fun _ => ⟨.empty, (), none⟩) empty storedWindow).map
        (fun state => (state.2 1).restoredSessionStorage) = some storedWindow.sessions[1]? := by
    rfl
  obtain ⟨⟨_, impl⟩, deserialized, rfl⟩ := Option.map_eq_some_iff.mp lists
  rw [deserialized] at kept
  refine ⟨impl, ⟨fun _ _ same => same, fun _ => 0, [], empty, fun _ => ⟨.empty, (), none⟩,
    .start, ?_, by decide, deserialized⟩, Option.some.inj kept⟩
  intro call
  exact List.not_mem_nil

/-- Saved at once, the second WebState still has the opener it was restored with. -/
theorem save_recordsOpener_storedWindow :
    ∃ impl, Restored true storedWindow (fun call => call) ⟨storedTabs, impl⟩ ∧
      ∃ saved after, serializeWebStateList true impl storedTabs = some (saved, after) ∧
        ∀ session, saved.sessions[1]? = some session →
          RecordsOpener storedTabs ⟨1, ⟨some 0, 4⟩⟩ session := by
  obtain ⟨impl, restored, _⟩ := restored_storedWindow
  obtain ⟨keeps, saved, after, serialized, _, records⟩ :=
    save_recordsOpener_iff restored .start (.inr (show (0 : Int) ≠ kInvalidIndex by decide))
  refine ⟨impl, restored, saved, after, serialized, ?_⟩
  intro session found
  apply (records 1 _ session rfl found).mpr
  intro _ kept cached
  rw [keeps 1 _ rfl kept cached]
  rfl

/-- After the first WebState has been moved to the end, the second one is saved
with the index that its opener had before. -/
theorem save_after_move_outdated :
    ∃ impl notifications, ∃ state : WindowState Nat Unit,
      Restored true storedWindow (fun call => call) ⟨storedTabs, impl⟩ ∧
      Run true ⟨storedTabs, impl⟩ notifications state ∧
      state.list = ⟨[⟨1, ⟨some 0, 4⟩⟩, ⟨2, .null⟩, ⟨0, .null⟩], 2⟩ ∧
      ∃ saved after session,
        serializeWebStateList true state.impl state.list = some (saved, after) ∧
        saved.sessions[0]? = some session ∧ storedOpener session.userData = some (0, 4) ∧
        state.list.openerRecord ⟨some 0, 4⟩ = some (2, 4) ∧
        ¬ RecordsOpener state.list ⟨1, ⟨some 0, 4⟩⟩ session := by
  obtain ⟨impl, restored, kept⟩ := restored_storedWindow
  have admissible : WindowState.Admissible ⟨storedTabs, impl⟩
      (.operate ⟨fun _ => 0, .moveWebStateAt 0 2⟩) :=
    show storedTabs.Admissible ⟨fun _ => 0, .moveWebStateAt 0 2⟩ by decide
  have run : Run true ⟨storedTabs, impl⟩ [.moved 0 0 2]
      ⟨⟨[⟨1, ⟨some 0, 4⟩⟩, ⟨2, .null⟩, ⟨0, .null⟩], 2⟩, impl⟩ :=
    .next .start admissible rfl
  obtain ⟨saved, after, serialized, sessions, _⟩ := serializeWebStateList_eq true impl
    (Run.invariant restored run).1 (.inr (show (2 : Int) ≠ kInvalidIndex by decide))
  have stored : storedOpener (savedSession true impl
      ⟨[⟨1, ⟨some 0, 4⟩⟩, ⟨2, .null⟩, ⟨0, .null⟩], 2⟩ ⟨1, ⟨some 0, 4⟩⟩).userData =
        some (0, 4) := by
    unfold savedSession WebStateImpl.buildSessionStorage withOpenerWritten
    rw [if_pos rfl, kept]
    rfl
  refine ⟨impl, _, _, restored, run, rfl, saved, after, _, serialized,
    by rw [sessions]; rfl, stored, rfl, ?_⟩
  intro records
  have wrong : some ((0 : Int), (4 : Int)) = some (2, 4) := stored.symm.trans records
  exact absurd wrong (by decide)

end WindowState

end ChromiumIos
