import Mathlib

/-!
# Queues whose elements may be dropped

Elements are pushed to the end of a queue and popped from its front; dropping an
element takes all its copies out of the queue.  A list of such events can be
replayed if every pop takes the element that is at the front.  Then the elements
leave the queue in the order in which they came, and an element that is not
dropped is popped or still waits.
-/

namespace ChromiumIos.Lib

inductive QueueEvent (α : Type*) where
  | push (element : α)
  | drop (element : α)
  | pop (element : α)
deriving DecidableEq, Repr

namespace QueueEvent

variable {α : Type*} [DecidableEq α]

def perform : List α → QueueEvent α → Option (List α)
  | waiting, push element => some (waiting ++ [element])
  | waiting, drop element => some (waiting.filter fun other => other ≠ element)
  | [], pop _ => none
  | first :: rest, pop element => if first = element then some rest else none

def replay (waiting : List α) (events : List (QueueEvent α)) : Option (List α) :=
  events.foldlM perform waiting

omit [DecidableEq α] in
def pushed (events : List (QueueEvent α)) : List α :=
  events.filterMap fun event =>
    match event with
    | push element => some element
    | _ => none

omit [DecidableEq α] in
def popped (events : List (QueueEvent α)) : List α :=
  events.filterMap fun event =>
    match event with
    | pop element => some element
    | _ => none

variable {waiting next last : List α} {event : QueueEvent α} {events more : List (QueueEvent α)}

theorem replay_append : replay waiting (events ++ more) =
    (replay waiting events).bind fun next => replay next more :=
  List.foldlM_append

/-- Replaying one event and then others. -/
theorem replay_cons : replay waiting (event :: events) =
    (perform waiting event).bind fun next => replay next events :=
  List.foldlM_cons

theorem perform_pop {element : α} (popped : perform waiting (pop element) = some next) :
    waiting = element :: next := by
  cases waiting with
  | nil => cases popped
  | cons first rest =>
    change (if first = element then some rest else none) = some next at popped
    simpa using popped

/-- The elements leave the queue in the order in which they came. -/
theorem popped_append_sublist (replayed : replay waiting events = some last) :
    (popped events ++ last).Sublist (waiting ++ pushed events) := by
  induction events generalizing waiting with
  | nil =>
    cases replayed
    simp [popped]
  | cons event _ ih =>
    obtain ⟨_, performed, replayed⟩ := Option.bind_eq_some_iff.mp replayed
    have following := ih replayed
    cases event with
    | push _ =>
      cases performed
      simpa [popped, pushed] using following
    | drop _ =>
      cases performed
      exact following.trans (List.filter_sublist.append (List.Sublist.refl _))
    | pop element =>
      cases perform_pop performed
      exact following.cons_cons element

/-- An element that is not dropped has been popped or still waits. -/
theorem filter_popped_append (keep : α → Bool)
    (undropped : ∀ element, drop element ∈ events → keep element = false)
    (replayed : replay waiting events = some last) :
    (popped events ++ last).filter keep = (waiting ++ pushed events).filter keep := by
  induction events generalizing waiting with
  | nil =>
    cases replayed
    simp [popped, pushed]
  | cons event rest ih =>
    rw [replay_cons] at replayed
    obtain ⟨next, performed, replayed⟩ := Option.bind_eq_some_iff.mp replayed
    have following := ih (fun element mem => undropped element (List.mem_cons_of_mem _ mem))
      replayed
    cases event with
    | push _ =>
      cases performed
      simpa [popped, pushed] using following
    | drop element =>
      cases performed
      change (popped rest ++ last).filter keep = _
      have dropped := undropped element (List.mem_cons_self ..)
      have unchanged : (waiting.filter fun other => other ≠ element).filter keep =
          waiting.filter keep := by
        rw [List.filter_filter]
        apply List.filter_congr
        intro other _
        by_cases same : other = element
        · simp [same, dropped]
        · simp [same]
      rw [following, List.filter_append, unchanged, ← List.filter_append]
      rfl
    | pop element =>
      cases perform_pop performed
      change (element :: (popped rest ++ last)).filter keep =
        (element :: (next ++ pushed rest)).filter keep
      grind

end QueueEvent

end ChromiumIos.Lib
