import ChromiumIos.Lib.SetDifference
import ChromiumIos.Net.Cookies.CookieCache

/-!
# Updates of the cookie cache

The sets of the cache are kept in the order of a comparator that does not look at the values,
and their differences are taken with one that does.  The sets are sorted by both, so that a
difference leaves just the cookies whose contents are not in the other set, and a sequence of
updates tells each time what separates the cookies from those of the last update with the same
key.
-/

namespace ChromiumIos

open Lib

/-- What the differences are ordered by. -/
def CanonicalCookie.keyAndValue {Attributes : Type} (cookie : CanonicalCookie Attributes) :
    String ×ₗ String ×ₗ String ×ₗ String :=
  toLex (cookie.domain, toLex (cookie.path, toLex (cookie.name, cookie.value)))

namespace CookieCache

variable {Url Attributes : Type}

def cookieComparator (lhs rhs : CanonicalCookie Attributes) : Bool :=
  if lhs.domain ≠ rhs.domain then lhs.domain < rhs.domain
  else if lhs.path ≠ rhs.path then lhs.path < rhs.path
  else if lhs.name ≠ rhs.name then lhs.name < rhs.name
  else false

def cookieAndValueComparator (lhs rhs : CanonicalCookie Attributes) : Bool :=
  if lhs.domain ≠ rhs.domain then lhs.domain < rhs.domain
  else if lhs.path ≠ rhs.path then lhs.path < rhs.path
  else if lhs.name ≠ rhs.name then lhs.name < rhs.name
  else if lhs.value ≠ rhs.value then lhs.value < rhs.value
  else false

/-- A vector that a call may be given to append to. -/
abbrev OutCookies (Attributes : Type) := Option (List (CanonicalCookie Attributes))

/-- What a call returns and leaves in the vectors. -/
structure Outcome (Attributes : Type) where
  changed : Bool
  outRemovedCookies : OutCookies Attributes
  outAddedCookies : OutCookies Attributes

/-- The method of the cache, with the differences taken as the source takes them. -/
def updateInto [DecidableEq Url] (cookieCache : CookieCache Url Attributes) (url : Url)
    (name : String) (newCookies : List (CanonicalCookie Attributes))
    (outRemovedCookies outAddedCookies : OutCookies Attributes) :
    Outcome Attributes × CookieCache Url Attributes :=
  let oldSet := cookieCache.cache url name
  let newSet : CookieSet Attributes := .ofList newCookies
  let addedCookies : CookieSet Attributes :=
    .ofList (sortedDifference cookieAndValueComparator newSet.elements oldSet.elements)
  let removedCookies : CookieSet Attributes :=
    .ofList (sortedDifference cookieAndValueComparator oldSet.elements newSet.elements)
  if addedCookies.elements.isEmpty && removedCookies.elements.isEmpty then
    (⟨false, outRemovedCookies, outAddedCookies⟩, cookieCache)
  else
    (⟨true, outRemovedCookies.map (· ++ removedCookies.elements),
        outAddedCookies.map (· ++ addedCookies.elements)⟩,
      ⟨fun otherUrl otherName =>
        if otherUrl = url ∧ otherName = name then newSet else cookieCache.cache otherUrl otherName⟩)

/-! ## The two comparators -/

theorem lex_lt_iff {α β : Type} [LinearOrder α] [LT β] {first second : α} {rest others : β} :
    (toLex (first, rest) : α ×ₗ β) < toLex (second, others) ↔
      if first ≠ second then first < second else rest < others := by
  grind [Prod.Lex.toLex_lt_toLex]

/-- The sets of the cache are kept in the order of the first comparator. -/
theorem cookieComparator_orders :
    OrdersBy cookieComparator (CanonicalCookie.key : CanonicalCookie Attributes → _) := by
  grind [OrdersBy, cookieComparator, CanonicalCookie.key, lex_lt_iff]

theorem cookieAndValueComparator_orders :
    OrdersBy cookieAndValueComparator
      (CanonicalCookie.keyAndValue : CanonicalCookie Attributes → _) := by
  grind [OrdersBy, cookieAndValueComparator, CanonicalCookie.keyAndValue, lex_lt_iff]

/-- Cookies that the first comparator puts in order are in order for the second one. -/
theorem cookieAndValueComparator_of_cookieComparator {first second : CanonicalCookie Attributes}
    (less : cookieComparator first second = true) :
    cookieAndValueComparator first second = true := by
  grind [cookieComparator, cookieAndValueComparator]

theorem sorted_keyAndValue (set : CookieSet Attributes) :
    set.elements.Pairwise fun first second => first.keyAndValue < second.keyAndValue := by
  refine set.sorted.imp fun less => (cookieAndValueComparator_orders _ _).mp ?_
  exact cookieAndValueComparator_of_cookieComparator ((cookieComparator_orders _ _).mpr less)

/-- The difference of two sets of the cache leaves the cookies that are not in the second one
with the same value. -/
theorem sortedDifference_eq (first second : CookieSet Attributes) :
    sortedDifference cookieAndValueComparator first.elements second.elements =
      setDifference first second := by
  rw [sortedDifference_eq_filter cookieAndValueComparator_orders (sorted_keyAndValue first)
    (sorted_keyAndValue second)]
  rfl

/-- The cookies of a difference all get into the set that is made of them. -/
theorem elements_ofList_setDifference (first second : CookieSet Attributes) :
    (OrderedSet.ofList (setDifference first second) : CookieSet Attributes).elements =
      setDifference first second :=
  OrderedSet.elements_ofList_of_sorted (first.sorted.sublist List.filter_sublist)

section Call

variable [DecidableEq Url] {cookieCache : CookieCache Url Attributes} {url otherUrl : Url}
variable {name otherName : String} {newCookies : List (CanonicalCookie Attributes)}
variable {outRemovedCookies outAddedCookies : OutCookies Attributes}

/-- What a call tells is what separates the two sets, added to what the vectors hold. -/
theorem updateInto_eq :
    cookieCache.updateInto url name newCookies outRemovedCookies outAddedCookies =
      (⟨(cookieCache.update url name newCookies).1.changed,
          outRemovedCookies.map (· ++ (cookieCache.update url name newCookies).1.removed),
          outAddedCookies.map (· ++ (cookieCache.update url name newCookies).1.added)⟩,
        (cookieCache.update url name newCookies).2) := by
  dsimp only [updateInto, update]
  rw [sortedDifference_eq, sortedDifference_eq, elements_ofList_setDifference,
    elements_ofList_setDifference]
  split
  · simp
  · rfl

def firstContents (cookies : List (CanonicalCookie Attributes)) : Set CookieContent :=
  {content | ∃ cookie, OrderedSet.IsFirst CanonicalCookie.key cookies cookie ∧
    cookie.content = content}

omit [DecidableEq Url] in
theorem contents_ofList (cookies : List (CanonicalCookie Attributes)) :
    contents (OrderedSet.ofList cookies : CookieSet Attributes).elements =
      firstContents cookies := by
  ext content
  exact exists_congr fun cookie => and_congr_left fun _ => OrderedSet.mem_ofList_iff

omit [DecidableEq Url] in
theorem contents_setDifference (first second : CookieSet Attributes) :
    contents (setDifference first second) =
      contents first.elements \ contents second.elements := by
  ext content
  grind [contents, setDifference]

theorem update_removed :
    (cookieCache.update url name newCookies).1.removed =
      setDifference (cookieCache.cache url name) (.ofList newCookies) := by
  grind [update]

theorem update_added :
    (cookieCache.update url name newCookies).1.added =
      setDifference (.ofList newCookies) (cookieCache.cache url name) := by
  grind [update]

theorem update_changed :
    (cookieCache.update url name newCookies).1.changed =
      !((cookieCache.update url name newCookies).1.added.isEmpty &&
        (cookieCache.update url name newCookies).1.removed.isEmpty) := by
  dsimp only [update]
  grind

omit [DecidableEq Url] in
theorem contents_nonempty_iff {cookies : List (CanonicalCookie Attributes)} :
    (contents cookies).Nonempty ↔ cookies.isEmpty = false := by
  cases cookies with
  | nil => simp [contents]
  | cons _ _ => exact iff_of_true ⟨_, mem_contents List.mem_cons_self⟩ rfl

theorem changed_iff :
    (cookieCache.update url name newCookies).1.changed = true ↔
      (contents (cookieCache.update url name newCookies).1.removed).Nonempty ∨
        (contents (cookieCache.update url name newCookies).1.added).Nonempty := by
  simp [contents_nonempty_iff, update_changed, or_comm]

/-- The contents that an update removes are those that are not among the new ones. -/
theorem contents_removed :
    contents (cookieCache.update url name newCookies).1.removed =
      contents (cookieCache.cache url name).elements \ firstContents newCookies := by
  rw [update_removed, contents_setDifference, contents_ofList]

theorem contents_added :
    contents (cookieCache.update url name newCookies).1.added =
      firstContents newCookies \ contents (cookieCache.cache url name).elements := by
  rw [update_added, contents_setDifference, contents_ofList]

/-- The cache holds the new contents then, also when it keeps the old set. -/
theorem contents_update :
    contents ((cookieCache.update url name newCookies).2.cache url name).elements =
      firstContents newCookies := by
  cases changed : (cookieCache.update url name newCookies).1.changed with
  | true =>
    dsimp only [update] at changed ⊢
    split
    case isTrue same => rw [if_pos same] at changed; cases changed
    case isFalse =>
      simp [contents_ofList]
  | false =>
    have none := mt changed_iff.mpr (by rw [changed]; exact Bool.false_ne_true)
    rw [contents_removed, contents_added, not_or, Set.not_nonempty_iff_eq_empty,
      Set.not_nonempty_iff_eq_empty, Set.sdiff_eq_empty, Set.sdiff_eq_empty] at none
    have kept : (cookieCache.update url name newCookies).2 = cookieCache := by
      dsimp only [update] at changed ⊢
      grind
    grind

end Call

/-! ## Sequences of calls -/

structure UpdateCall (Url Attributes : Type) where
  url : Url
  name : String
  newCookies : List (CanonicalCookie Attributes)
  outRemovedCookies : OutCookies Attributes
  outAddedCookies : OutCookies Attributes

section Calls

variable [DecidableEq Url]

def UpdateCall.perform (call : UpdateCall Url Attributes)
    (cookieCache : CookieCache Url Attributes) :
    Outcome Attributes × CookieCache Url Attributes :=
  cookieCache.updateInto call.url call.name call.newCookies call.outRemovedCookies
    call.outAddedCookies

def afterCalls (calls : List (UpdateCall Url Attributes)) : CookieCache Url Attributes :=
  calls.foldl (fun cookieCache call => (call.perform cookieCache).2) initial

def lastContents (calls : List (UpdateCall Url Attributes)) (url : Url) (name : String) :
    Set CookieContent :=
  calls.foldl (fun held call =>
    if url = call.url ∧ name = call.name then firstContents call.newCookies else held) ∅

theorem contents_perform (call : UpdateCall Url Attributes)
    (cookieCache : CookieCache Url Attributes) (url : Url) (name : String) :
    contents ((call.perform cookieCache).2.cache url name).elements =
      if url = call.url ∧ name = call.name then firstContents call.newCookies
      else contents (cookieCache.cache url name).elements := by
  unfold UpdateCall.perform
  grind [updateInto_eq, contents_update, update_other]

theorem contents_afterCalls (calls : List (UpdateCall Url Attributes)) (url : Url)
    (name : String) :
    contents ((afterCalls calls).cache url name).elements = lastContents calls url name := by
  induction calls using List.reverseRec with
  | nil =>
    ext content
    exact iff_of_false (fun ⟨_, mem, _⟩ => List.not_mem_nil mem) (Set.notMem_empty _)
  | append_singleton _ _ ih =>
    unfold afterCalls lastContents at *
    simp [contents_perform, ih]

/--
Each call after any others appends to its vectors just the cookies that separate the contents
passed to it from those of the last call with its key, it returns whether there are any, and
from then on the cache holds the contents passed for that key and what it held for the others.
-/
theorem perform_spec (earlier : List (UpdateCall Url Attributes))
    (call : UpdateCall Url Attributes) :
    ∃ removed added : List (CanonicalCookie Attributes),
      (call.perform (afterCalls earlier)).1.outRemovedCookies =
        call.outRemovedCookies.map (· ++ removed) ∧
      (call.perform (afterCalls earlier)).1.outAddedCookies =
        call.outAddedCookies.map (· ++ added) ∧
      contents removed =
        lastContents earlier call.url call.name \ firstContents call.newCookies ∧
      contents added =
        firstContents call.newCookies \ lastContents earlier call.url call.name ∧
      (removed.map CanonicalCookie.content).Nodup ∧ (added.map CanonicalCookie.content).Nodup ∧
      ((call.perform (afterCalls earlier)).1.changed = true ↔
        (contents removed).Nonempty ∨ (contents added).Nonempty) ∧
      lastContents earlier call.url call.name \ contents removed ∪ contents added =
        firstContents call.newCookies ∧
      contents ((call.perform (afterCalls earlier)).2.cache call.url call.name).elements =
        firstContents call.newCookies ∧
      ∀ url name, ¬ (url = call.url ∧ name = call.name) →
        contents ((call.perform (afterCalls earlier)).2.cache url name).elements =
          lastContents earlier url name := by
  have held := contents_afterCalls earlier
  have performed : call.perform (afterCalls earlier) = _ := updateInto_eq
  refine ⟨((afterCalls earlier).update call.url call.name call.newCookies).1.removed,
    ((afterCalls earlier).update call.url call.name call.newCookies).1.added, ?_, ?_, ?_, ?_, ?_,
    ?_, ?_, ?_, ?_, ?_⟩
  · rw [performed]
  · rw [performed]
  · rw [contents_removed, held]
  · rw [contents_added, held]
  · rw [update_removed]
    exact nodup_setDifference _ _
  · rw [update_added]
    exact nodup_setDifference _ _
  · rw [performed]
    exact changed_iff
  · grind [contents_removed, contents_added]
  · rw [contents_perform, if_pos ⟨rfl, rfl⟩]
  · intro url name differs
    rw [contents_perform, if_neg differs, held]

end Calls

end CookieCache

end ChromiumIos
