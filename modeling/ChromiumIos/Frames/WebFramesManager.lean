import ChromiumIos.Frames.WebFrame
import ChromiumIos.Lib.Runs

/-!
# The registry of the frames of a page

Frames tell native code that they have become available or unavailable.  The
handlers of these messages check the types of what they read and keep the
frames in a registry that asserts that the id of a frame is not empty, that an
id is registered once and that there is one main frame.  Any frame can send
such a message with any content.

When all frames are removed the observers are told about them in the order of
their addresses.
-/

namespace ChromiumIos

open Lib

variable {Key Origin : Type}

structure WebFramesManagerImpl (Key Origin : Type) where
  webFrames : List (WebFrame Key Origin)
  mainWebFrame : Option (WebFrame Key Origin)

variable (manager : WebFramesManagerImpl Key Origin) (frameId : String)

namespace WebFramesManagerImpl

def empty : WebFramesManagerImpl Key Origin := ⟨[], none⟩

def find (manager : WebFramesManagerImpl Key Origin) (frameId : String) :
    Option (WebFrame Key Origin) :=
  manager.webFrames.find? fun frame => frame.frameId = frameId

def addFrame (frame : WebFrame Key Origin) : Checked (WebFramesManagerImpl Key Origin) := do
  dcheck (frame.frameId ≠ "")
  dcheck (frame.isMainFrame → manager.mainWebFrame.isNone)
  dcheck ((manager.find frame.frameId).isNone)
  return {
    webFrames := manager.webFrames ++ [frame]
    mainWebFrame := if frame.isMainFrame then some frame else manager.mainWebFrame }

def removeFrameWithId : Checked (WebFramesManagerImpl Key Origin) := do
  dcheck (frameId ≠ "")
  dcheck (∀ frame ∈ manager.find frameId, frame.isMainFrame →
    manager.mainWebFrame.map WebFrame.frameId = some frame.frameId)
  return {
    webFrames := manager.webFrames.filter fun frame => frame.frameId ≠ frameId
    mainWebFrame := manager.mainWebFrame.filter fun frame => frame.frameId ≠ frameId }

def removeAllWebFrames (_manager : WebFramesManagerImpl Key Origin) :
    WebFramesManagerImpl Key Origin := empty

def getFrameWithId : Checked (Option (WebFrame Key Origin)) :=
  (dcheck (frameId ≠ "")).map fun _ => manager.find frameId

def getAllWebFrames : List (WebFrame Key Origin) :=
  manager.webFrames

def getMainWebFrame : Option (WebFrame Key Origin) :=
  manager.mainWebFrame

structure Registered (manager : WebFramesManagerImpl Key Origin) : Prop where
  nonempty : ∀ frame ∈ manager.getAllWebFrames, frame.frameId ≠ ""
  distinct : (manager.getAllWebFrames.map WebFrame.frameId).Nodup
  main : manager.getAllWebFrames.filter WebFrame.isMainFrame = manager.getMainWebFrame.toList

end WebFramesManagerImpl

/-- What the observers of a page are told about its frames. -/
inductive FrameNotification (Key Origin : Type) where
  | available (frame : WebFrame Key Origin)
  | unavailable (frame : WebFrame Key Origin)
deriving DecidableEq, Repr

structure FramesController (Key Origin : Type) where
  isBeingDestroyed : Bool
  framesManager : WebFramesManagerImpl Key Origin

namespace FramesController

def init : FramesController Key Origin := ⟨false, .empty⟩

variable (controller : FramesController Key Origin)

def frameBecameAvailableWithMessage (importKey : String → Option Key)
    (controller : FramesController Key Origin) (message : WKScriptMessage Origin) :
    Checked (FramesController Key Origin × List (FrameNotification Key Origin)) :=
  if controller.isBeingDestroyed ∨ message.body.isDictionary = false then some (controller, [])
  else
    match message.crwFrameId with
    | none => some (controller, [])
    | some frameId => do
        let known ← controller.framesManager.getFrameWithId frameId
        if known.isSome then
          return (controller, [])
        else
          let framesManager ←
            controller.framesManager.addFrame (message.newFrame importKey frameId)
          let added ← framesManager.getFrameWithId frameId
          return ({ controller with framesManager }, added.toList.map .available)

def frameBecameUnavailableWithMessage (message : WKScriptMessage Origin) :
    Checked (FramesController Key Origin × List (FrameNotification Key Origin)) :=
  if controller.isBeingDestroyed then some (controller, [])
  else
    match message.body.text? with
    | none => some (controller, [])
    | some frameId => do
        let known ← controller.framesManager.getFrameWithId frameId
        match known with
        | none => return (controller, [])
        | some frame =>
          let framesManager ← controller.framesManager.removeFrameWithId frameId
          return ({ controller with framesManager }, [.unavailable frame])

def removeAllWebFrames (controller : FramesController Key Origin)
    (addresses : List (WebFrame Key Origin)) :
    FramesController Key Origin × List (FrameNotification Key Origin) :=
  ({ controller with framesManager := controller.framesManager.removeAllWebFrames },
    addresses.map .unavailable)

def close : FramesController Key Origin :=
  { controller with isBeingDestroyed := true }

inductive Input (Key Origin : Type) where
  | frameBecameAvailable (message : WKScriptMessage Origin)
  | frameBecameUnavailable (message : WKScriptMessage Origin)
  | removeAllWebFrames (addresses : List (WebFrame Key Origin))
  | close

def step (importKey : String → Option Key) (controller : FramesController Key Origin) :
    Input Key Origin →
      Checked (FramesController Key Origin × List (FrameNotification Key Origin))
  | .frameBecameAvailable message =>
    controller.frameBecameAvailableWithMessage importKey message
  | .frameBecameUnavailable message => controller.frameBecameUnavailableWithMessage message
  | .removeAllWebFrames addresses => some (controller.removeAllWebFrames addresses)
  | .close => some (controller.close, [])

/-- A message may come at any time with any content; the addresses are those of the frames. -/
def Accepts : Input Key Origin → Prop
  | .frameBecameAvailable _ => True
  | .frameBecameUnavailable _ => True
  | .removeAllWebFrames addresses =>
    addresses.Perm controller.framesManager.getAllWebFrames
  | .close => controller.isBeingDestroyed = false

/-- The id in a message is not empty, and a main frame that is not known yet comes when no
main frame is registered. -/
def Honest : Input Key Origin → Prop
  | .frameBecameAvailable message =>
    controller.isBeingDestroyed = false → ∀ frameId ∈ message.crwFrameId, frameId ≠ "" ∧
      (message.mainFrame → (controller.framesManager.find frameId).isSome ∨
        controller.framesManager.getMainWebFrame.isNone)
  | .frameBecameUnavailable message =>
    controller.isBeingDestroyed = false → ∀ frameId ∈ message.body.text?, frameId ≠ ""
  | .removeAllWebFrames _ => True
  | .close => True

section Decidable

variable [DecidableEq Key] [DecidableEq Origin]
variable (controller : FramesController Key Origin)

instance : (input : Input Key Origin) → Decidable (controller.Accepts input)
  | .frameBecameAvailable _ => inferInstanceAs (Decidable True)
  | .frameBecameUnavailable _ => inferInstanceAs (Decidable True)
  | .removeAllWebFrames addresses =>
    inferInstanceAs (Decidable (addresses.Perm controller.framesManager.getAllWebFrames))
  | .close => inferInstanceAs (Decidable (controller.isBeingDestroyed = false))

omit [DecidableEq Key] [DecidableEq Origin] in
instance : (input : Input Key Origin) → Decidable (controller.Honest input)
  | .frameBecameAvailable message => inferInstanceAs (Decidable
      (controller.isBeingDestroyed = false → ∀ frameId ∈ message.crwFrameId, frameId ≠ "" ∧
        (message.mainFrame → (controller.framesManager.find frameId).isSome ∨
          controller.framesManager.getMainWebFrame.isNone)))
  | .frameBecameUnavailable message => inferInstanceAs (Decidable
      (controller.isBeingDestroyed = false → ∀ frameId ∈ message.body.text?, frameId ≠ ""))
  | .removeAllWebFrames _ => inferInstanceAs (Decidable True)
  | .close => inferInstanceAs (Decidable True)

end Decidable

end FramesController

/-! ## What the operations of the registry keep -/

namespace WebFramesManagerImpl

variable {manager : WebFramesManagerImpl Key Origin} {frame : WebFrame Key Origin}
variable {frameId : String}

theorem find_eq_none_iff :
    manager.find frameId = none ↔ frameId ∉ manager.webFrames.map WebFrame.frameId := by
  simp [find]

theorem find_eq_some (found : manager.find frameId = some frame) :
    frame ∈ manager.webFrames ∧ frame.frameId = frameId :=
  ⟨List.mem_of_find?_eq_some found, by simpa using List.find?_some found⟩

theorem find_isSome_iff :
    (manager.find frameId).isSome ↔ frameId ∈ manager.webFrames.map WebFrame.frameId := by
  simp [find]

theorem registered_empty : (empty : WebFramesManagerImpl Key Origin).Registered where
  nonempty := nofun
  distinct := List.nodup_nil
  main := rfl

theorem Registered.mem_mainWebFrame_iff (registered : manager.Registered) :
    frame ∈ manager.mainWebFrame ↔ frame ∈ manager.webFrames ∧ frame.isMainFrame = true := by
  have main := registered.main
  rw [getMainWebFrame] at main
  rw [Option.mem_def, ← Option.mem_toList, ← main, List.mem_filter]
  exact Iff.rfl

theorem Registered.addFrame (registered : manager.Registered) (nonempty : frame.frameId ≠ "")
    (fresh : manager.find frame.frameId = none)
    (alone : frame.isMainFrame → manager.mainWebFrame.isNone) :
    ∃ after, manager.addFrame frame = some after ∧ after.Registered ∧
      after.webFrames = manager.webFrames ++ [frame] := by
  refine ⟨{
    webFrames := manager.webFrames ++ [frame]
    mainWebFrame := if frame.isMainFrame then some frame else manager.mainWebFrame }, ?_, ?_, rfl⟩
  · have unknown : (manager.find frame.frameId).isNone := Option.isNone_iff_eq_none.mpr fresh
    rw [WebFramesManagerImpl.addFrame, dcheck_of nonempty, dcheck_of alone, dcheck_of unknown]
    rfl
  · have main : manager.webFrames.filter WebFrame.isMainFrame = manager.mainWebFrame.toList :=
      registered.main
    constructor
    · grind [getAllWebFrames, registered.nonempty]
    · change ((manager.webFrames ++ [frame]).map WebFrame.frameId).Nodup
      rw [List.map_append]
      exact registered.distinct.append (List.nodup_singleton _)
        (List.disjoint_singleton.mpr (find_eq_none_iff.mp fresh))
    · change (manager.webFrames ++ [frame]).filter WebFrame.isMainFrame =
        (if frame.isMainFrame then some frame else manager.mainWebFrame).toList
      rw [List.filter_append, main]
      by_cases isMain : frame.isMainFrame = true
      · simp [Option.isNone_iff_eq_none.mp (alone isMain), isMain]
      · simp [isMain]

theorem Registered.removeFrameWithId (registered : manager.Registered) (nonempty : frameId ≠ "") :
    ∃ after, manager.removeFrameWithId frameId = some after ∧ after.Registered ∧
      after.webFrames = manager.webFrames.filter fun frame => frame.frameId ≠ frameId := by
  refine ⟨{
    webFrames := manager.webFrames.filter fun frame => frame.frameId ≠ frameId
    mainWebFrame := manager.mainWebFrame.filter fun frame => frame.frameId ≠ frameId }, ?_, ?_, rfl⟩
  · have current : ∀ frame ∈ manager.find frameId, frame.isMainFrame →
        manager.mainWebFrame.map WebFrame.frameId = some frame.frameId := by
      intro frame found isMain
      have isMainFrame : frame ∈ manager.mainWebFrame :=
        registered.mem_mainWebFrame_iff.mpr ⟨(find_eq_some found).1, isMain⟩
      simp [Option.mem_def.mp isMainFrame]
    rw [WebFramesManagerImpl.removeFrameWithId, dcheck_of nonempty, dcheck_of current]
    rfl
  · constructor
    · intro other mem
      exact registered.nonempty other (List.mem_filter.mp mem).1
    · exact registered.distinct.sublist (List.filter_sublist.map _)
    · have main : manager.webFrames.filter WebFrame.isMainFrame = manager.mainWebFrame.toList :=
        registered.main
      change (manager.webFrames.filter _).filter WebFrame.isMainFrame =
        (manager.mainWebFrame.filter fun frame => frame.frameId ≠ frameId).toList
      rw [List.filter_comm, main]
      cases manager.mainWebFrame <;> grind

end WebFramesManagerImpl

/-! ## What the observers are told -/

/-- Each value is the negation of the one before it. -/
inductive Alternating : Bool → List Bool → Bool → Prop where
  | refl (value : Bool) : Alternating value [] value
  | switch {value last : Bool} {rest : List Bool} (following : Alternating (!value) rest last) :
      Alternating value ((!value) :: rest) last

theorem Alternating.trans {first middle last : Bool} {values more : List Bool}
    (left : Alternating first values middle) (right : Alternating middle more last) :
    Alternating first (values ++ more) last := by
  induction left with
  | refl => exact right
  | switch _ ih => exact .switch (ih right)

def FrameNotification.availability : FrameNotification Key Origin → Option Bool
  | .available frame => if frame.frameId = frameId then some true else none
  | .unavailable frame => if frame.frameId = frameId then some false else none

namespace FramesController

variable {importKey : String → Option Key} {controller after : FramesController Key Origin}
variable {emitted : List (FrameNotification Key Origin)} {message : WKScriptMessage Origin}

def reports (emitted : List (FrameNotification Key Origin)) : List Bool :=
  emitted.filterMap (FrameNotification.availability frameId)

def isRegistered (controller : FramesController Key Origin) (frameId : String) : Bool :=
  (controller.framesManager.find frameId).isSome

/-- The registry stays in order, and the reports of a step lead from what was registered to
what is registered. -/
structure Follows (controller : FramesController Key Origin)
    (emitted : List (FrameNotification Key Origin)) (after : FramesController Key Origin) :
    Prop where
  registered : after.framesManager.Registered
  reported : ∀ frameId, Alternating (controller.isRegistered frameId) (reports frameId emitted)
    (after.isRegistered frameId)

variable (registered : controller.framesManager.Registered)
include registered

theorem follows_refl : controller.Follows [] controller where
  registered := registered
  reported _ := .refl _

omit registered

theorem isRegistered_eq (controller : FramesController Key Origin) (frameId : String) :
    controller.isRegistered frameId =
      decide (frameId ∈ controller.framesManager.webFrames.map WebFrame.frameId) :=
  Bool.eq_iff_iff.mpr (WebFramesManagerImpl.find_isSome_iff.trans decide_eq_true_iff.symm)

variable {frame : WebFrame Key Origin}

/-- A frame with a new id is added and reported. -/
theorem follows_added (fresh : controller.framesManager.find frame.frameId = none)
    (registered : after.framesManager.Registered)
    (added : after.framesManager.webFrames = controller.framesManager.webFrames ++ [frame]) :
    controller.Follows [.available frame] after := by
  refine ⟨registered, fun frameId => ?_⟩
  have absent := WebFramesManagerImpl.find_eq_none_iff.mp fresh
  rw [isRegistered_eq, isRegistered_eq, added, List.map_append]
  by_cases same : frame.frameId = frameId
  · subst same
    have told : reports frame.frameId [FrameNotification.available frame] = [true] := by
      simp [reports, FrameNotification.availability]
    have switched : Alternating false [true] true := .switch (.refl true)
    simpa [told, absent] using switched
  · have other : ¬ frameId = frame.frameId := fun eq => same eq.symm
    have told : reports frameId [FrameNotification.available frame] = [] := by
      simp [reports, FrameNotification.availability, same]
    simpa [told, other] using Alternating.refl _

variable {input : Input Key Origin} {frames : List (WebFrame Key Origin)}

/-- Reporting that frames with distinct ids are not available any more. -/
theorem reports_unavailable (distinct : (frames.map WebFrame.frameId).Nodup) (frameId : String) :
    reports frameId (frames.map .unavailable) =
      if frameId ∈ frames.map WebFrame.frameId then [false] else [] := by
  induction frames with
  | nil => rfl
  | cons frame _ ih =>
    obtain ⟨absent, distinct⟩ := List.nodup_cons.mp distinct
    have following := ih distinct
    rw [reports] at following
    rw [reports, List.map_cons, List.filterMap_cons, following]
    by_cases same : frame.frameId = frameId
    · subst same
      simp [FrameNotification.availability, absent]
    · have other : ¬ frameId = frame.frameId := fun eq => same eq.symm
      simp [FrameNotification.availability, same, other]

/-- Frames with distinct ids are reported and removed. -/
theorem follows_removed (distinct : (frames.map WebFrame.frameId).Nodup)
    (present : ∀ frame ∈ frames, controller.isRegistered frame.frameId)
    (registered : after.framesManager.Registered)
    (removed : ∀ frameId, after.isRegistered frameId =
      (controller.isRegistered frameId && !decide (frameId ∈ frames.map WebFrame.frameId))) :
    controller.Follows (frames.map .unavailable) after := by
  refine ⟨registered, fun frameId => ?_⟩
  rw [reports_unavailable distinct, removed]
  by_cases mem : frameId ∈ frames.map WebFrame.frameId
  · obtain ⟨frame, memFrame, same⟩ := List.mem_map.mp mem
    have was : controller.isRegistered frameId = true := same ▸ present frame memFrame
    have switched : Alternating true [false] false := .switch (.refl false)
    simpa [mem, was] using switched
  · simpa [mem] using Alternating.refl _

include registered

theorem removeAllWebFrames_follows {addresses : List (WebFrame Key Origin)}
    (ordered : addresses.Perm controller.framesManager.getAllWebFrames) :
    controller.Follows (controller.removeAllWebFrames addresses).2
      (controller.removeAllWebFrames addresses).1 := by
  have sameIds := ordered.map WebFrame.frameId
  refine follows_removed (sameIds.nodup_iff.mpr registered.distinct) ?_
    WebFramesManagerImpl.registered_empty ?_
  · intro frame mem
    rw [isRegistered_eq, decide_eq_true_iff]
    exact List.mem_map_of_mem (ordered.subset mem)
  · intro frameId
    have gone : (controller.removeAllWebFrames addresses).1.isRegistered frameId = false := rfl
    rw [gone, isRegistered_eq]
    have same : frameId ∈ addresses.map WebFrame.frameId ↔
        frameId ∈ controller.framesManager.webFrames.map WebFrame.frameId := sameIds.mem_iff
    simp [same]

omit registered

theorem getFrameWithId_of_ne {manager : WebFramesManagerImpl Key Origin} {frameId : String}
    (nonempty : frameId ≠ "") : manager.getFrameWithId frameId = some (manager.find frameId) := by
  rw [WebFramesManagerImpl.getFrameWithId, dcheck_of nonempty]
  rfl

include registered

theorem frameBecameAvailable_follows (honest : controller.Honest (.frameBecameAvailable message)) :
    ∃ after emitted,
      controller.frameBecameAvailableWithMessage importKey message = some (after, emitted) ∧
        controller.Follows emitted after := by
  unfold frameBecameAvailableWithMessage
  by_cases ignored : controller.isBeingDestroyed ∨ message.body.isDictionary = false
  · rw [if_pos ignored]
    exact ⟨_, _, rfl, follows_refl registered⟩
  rw [if_neg ignored]
  cases named : message.crwFrameId with
  | none => exact ⟨_, _, rfl, follows_refl registered⟩
  | some frameId =>
    have active : controller.isBeingDestroyed = false :=
      Bool.not_eq_true _ ▸ (not_or.mp ignored).1
    obtain ⟨nonempty, alone⟩ := honest active frameId named
    dsimp only
    rw [getFrameWithId_of_ne nonempty]
    cases known : controller.framesManager.find frameId with
    | some _ => exact ⟨_, _, rfl, follows_refl registered⟩
    | none =>
      have fresh : controller.framesManager.find
          (message.newFrame importKey frameId).frameId = none := by
        simp [known]
      have named : (message.newFrame importKey frameId).frameId ≠ "" := by
        simp [nonempty]
      have first : (message.newFrame importKey frameId).isMainFrame →
          controller.framesManager.mainWebFrame.isNone := by
        intro isMain
        rw [WKScriptMessage.newFrame_isMainFrame] at isMain
        rcases alone isMain with knownAlready | none
        · grind
        · exact none
      obtain ⟨manager, added, kept, frames⟩ := registered.addFrame named fresh first
      have found : manager.find frameId = some (message.newFrame importKey frameId) := by
        have absent : controller.framesManager.webFrames.find?
            (fun frame => frame.frameId = frameId) = none := known
        simp [WebFramesManagerImpl.find, frames, absent]
      refine ⟨{ controller with framesManager := manager }, [.available _], ?_,
        follows_added fresh kept frames⟩
      rw [Option.bind_eq_bind, Option.bind_some, if_neg (by simp), added]
      simp [getFrameWithId_of_ne nonempty, found]

theorem frameBecameUnavailable_follows
    (honest : controller.Honest (.frameBecameUnavailable message)) :
    ∃ after emitted,
      controller.frameBecameUnavailableWithMessage message = some (after, emitted) ∧
        controller.Follows emitted after := by
  unfold frameBecameUnavailableWithMessage
  by_cases ignored : controller.isBeingDestroyed = true
  · rw [if_pos ignored]
    exact ⟨_, _, rfl, follows_refl registered⟩
  rw [if_neg ignored]
  cases named : message.body.text? with
  | none => exact ⟨_, _, rfl, follows_refl registered⟩
  | some frameId =>
    have nonempty := honest (Bool.not_eq_true _ ▸ ignored) frameId named
    dsimp only
    rw [getFrameWithId_of_ne nonempty, Option.bind_eq_bind, Option.bind_some]
    cases known : controller.framesManager.find frameId with
    | none => exact ⟨_, _, rfl, follows_refl registered⟩
    | some frame =>
      obtain ⟨manager, removed, kept, frames⟩ := registered.removeFrameWithId nonempty
      have same := (WebFramesManagerImpl.find_eq_some known).2
      refine ⟨{ controller with framesManager := manager }, [frame].map .unavailable, ?_, ?_⟩
      · simp [removed]
      refine follows_removed (List.nodup_singleton _) ?_ kept ?_
      · simp [isRegistered, same, known]
      · grind [isRegistered_eq]

/-- A step that is accepted and honest passes all assertions. -/
theorem step_follows (accepted : controller.Accepts input) (honest : controller.Honest input) :
    ∃ after emitted, step importKey controller input = some (after, emitted) ∧
      controller.Follows emitted after := by
  cases input with
  | frameBecameAvailable _ => exact frameBecameAvailable_follows registered honest
  | frameBecameUnavailable _ => exact frameBecameUnavailable_follows registered honest
  | removeAllWebFrames _ =>
    exact ⟨_, _, rfl, removeAllWebFrames_follows registered accepted⟩
  | close => exact ⟨_, _, rfl, registered, fun _ => .refl _⟩

omit registered

/-! ## Messages that fail an assertion -/

theorem getFrameWithId_empty : manager.getFrameWithId "" = none := by
  rfl

theorem addFrame_second {manager : WebFramesManagerImpl Key Origin} (isMain : frame.isMainFrame)
    (current : manager.mainWebFrame.isNone = false) : manager.addFrame frame = none := by
  simp [WebFramesManagerImpl.addFrame, current, isMain]

theorem isDictionary_of_crwFrameId {frameId : String}
    (named : message.crwFrameId = some frameId) : message.body.isDictionary = true := by
  unfold WKScriptMessage.crwFrameId at named
  cases body : message.body with
  | dictionary _ => rfl
  | string text | number intValue | other =>
    rw [body] at named
    cases named

theorem frameBecameAvailable_fails
    (dishonest : ¬ controller.Honest (.frameBecameAvailable message)) :
    controller.frameBecameAvailableWithMessage importKey message = none := by
  have violated := Classical.not_imp.mp dishonest
  obtain ⟨active, violated⟩ := violated
  obtain ⟨frameId, violated⟩ := not_forall.mp violated
  obtain ⟨named, violated⟩ := Classical.not_imp.mp violated
  have heard : ¬ (controller.isBeingDestroyed ∨ message.body.isDictionary = false) := by
    rw [active, isDictionary_of_crwFrameId named]
    simp
  rw [frameBecameAvailableWithMessage, if_neg heard, Option.mem_def.mp named]
  dsimp only
  by_cases nonempty : frameId ≠ ""
  · obtain ⟨isMain, second⟩ := Classical.not_imp.mp fun alone => violated ⟨nonempty, alone⟩
    obtain ⟨unknown, current⟩ := not_or.mp second
    have unregistered := Option.not_isSome_iff_eq_none.mp unknown
    have isMainFrame : (message.newFrame importKey frameId).isMainFrame :=
      by simp [isMain]
    rw [getFrameWithId_of_ne nonempty, unregistered, Option.bind_eq_bind, Option.bind_some,
      if_neg (by simp), addFrame_second isMainFrame (Bool.not_eq_true _ ▸ current)]
    rfl
  · rw [not_not.mp nonempty, getFrameWithId_empty]
    rfl

theorem frameBecameUnavailable_fails
    (dishonest : ¬ controller.Honest (.frameBecameUnavailable message)) :
    controller.frameBecameUnavailableWithMessage message = none := by
  obtain ⟨active, violated⟩ := Classical.not_imp.mp dishonest
  obtain ⟨_, violated⟩ := not_forall.mp violated
  obtain ⟨named, empty⟩ := Classical.not_imp.mp violated
  have heard : ¬ controller.isBeingDestroyed = true := by rw [active]; exact Bool.false_ne_true
  simp [frameBecameUnavailableWithMessage, if_neg heard, Option.mem_def.mp named, not_not.mp empty,
    getFrameWithId_empty]

include registered

theorem step_isSome_iff (accepted : controller.Accepts input) :
    (step importKey controller input).isSome ↔ controller.Honest input := by
  constructor
  · intro returned
    by_contra dishonest
    cases input with
    | frameBecameAvailable _ =>
      simp [step, frameBecameAvailable_fails dishonest] at returned
    | frameBecameUnavailable _ =>
      simp [step, frameBecameUnavailable_fails dishonest] at returned
    | removeAllWebFrames addresses | close => exact dishonest trivial
  · intro honest
    obtain ⟨_, _, stepped, -⟩ := step_follows registered accepted honest
    rw [stepped]
    rfl

omit registered

/-! ## Runs -/

/-- In a run of honest messages the registered ids are distinct and not empty, the main
frame is the one that is registered, the reports about an id alternate, and the next step
fails an assertion exactly when its message is not honest. -/
theorem run_registered (importKey : String → Option Key)
    (log : List (FrameNotification Key Origin)) (controller : FramesController Key Origin)
    (run : Runs (step importKey)
      (fun controller input => controller.Accepts input ∧ controller.Honest input) init log
      controller) :
    controller.framesManager.Registered ∧
      (∀ frameId, Alternating false (reports frameId log) (controller.isRegistered frameId)) ∧
      ∀ input, controller.Accepts input →
        ((step importKey controller input).isSome ↔ controller.Honest input) := by
  have kept : controller.framesManager.Registered ∧
      ∀ frameId, Alternating false (reports frameId log) (controller.isRegistered frameId) := by
    induction run with
    | start => exact ⟨WebFramesManagerImpl.registered_empty, fun _ => .refl _⟩
    | next _ accepted stepped ih =>
      obtain ⟨registered, alternating⟩ := ih
      obtain ⟨next, told, returned, follows⟩ := step_follows registered accepted.1 accepted.2
      cases stepped.symm.trans returned
      refine ⟨follows.registered, fun frameId => ?_⟩
      simpa [reports] using (alternating frameId).trans (follows.reported frameId)
  grind [step_isSome_iff]

def registration (mainFrame : Bool) : WKScriptMessage Nat where
  body := .dictionary [("crwFrameId", .string frameId), ("crwFrameKey", .string "c2VjcmV0"),
    ("crwFrameLastReceivedMessageId", .number 6)]
  mainFrame := mainFrame
  securityOrigin := 0

def leavingFrame : List (Input String Nat) :=
  [.frameBecameAvailable (registration "inner" false),
    .frameBecameAvailable (registration "main" true),
    .frameBecameAvailable (registration "main" true),
    .frameBecameUnavailable ⟨.string "inner", false, 0⟩,
    .frameBecameUnavailable ⟨.number 1, false, 0⟩]

theorem run_registered_leavingFrame :
    ∃ log : List (FrameNotification String Nat), ∃ controller : FramesController String Nat,
      (controller.framesManager.getMainWebFrame.map WebFrame.nextMessageId = some 7 ∧
        reports "inner" log = [true, false]) ∧
      controller.framesManager.Registered ∧
      ∀ frameId, Alternating false (reports frameId log) (controller.isRegistered frameId) := by
  have run : Runs (step some)
      (fun controller input => controller.Accepts input ∧ controller.Honest input)
      (init : FramesController String Nat) _ _ :=
    Runs.replay leavingFrame .start (Option.eq_some_of_isSome (by decide))
  obtain ⟨registered, alternating, -⟩ := run_registered some _ _ run
  exact ⟨_, _, by decide, registered, alternating⟩

/-- An empty id fails an assertion, and so does a second id that the main frame sends. -/
theorem run_forged :
    ¬ (∀ (log : List (FrameNotification String Nat)) (controller : FramesController String Nat),
      Runs (step some) Accepts init log controller →
        ∀ message, (step some controller (.frameBecameAvailable message)).isSome) ∧
    step some (init : FramesController String Nat)
      (.frameBecameAvailable (registration "" false)) = none ∧
    (replay? (step some) Accepts (init : FramesController String Nat)
      [.frameBecameAvailable (registration "main" true)]).isSome ∧
    replay? (step some) Accepts (init : FramesController String Nat)
      [.frameBecameAvailable (registration "main" true),
        .frameBecameAvailable (registration "forged" true)] = none := by
  have failed : step some (init : FramesController String Nat)
      (.frameBecameAvailable (registration "" false)) = none := by decide
  refine ⟨fun safe => ?_, failed, by decide, by decide⟩
  have returned := safe [] init .start (registration "" false)
  cases returned

end FramesController

end ChromiumIos
