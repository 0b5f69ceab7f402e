import ChromiumIos.Lib.OrderedSet

/-!
# The cache of cookies with observers

For every URL and name the cache keeps the cookies of that name that would be
sent to the URL.  An update compares the cookies that there are now with those
kept and says which were removed and which were added; a cookie whose value has
changed is one of each.
-/

namespace ChromiumIos

open Lib

/-- A cookie; no comparison looks at its other attributes. -/
structure CanonicalCookie (Attributes : Type) where
  domain : String
  path : String
  name : String
  value : String
  attributes : Attributes
deriving DecidableEq

namespace CanonicalCookie

variable {Attributes : Type}

/-- What cookies are ordered by. -/
def key (cookie : CanonicalCookie Attributes) : String ×ₗ String ×ₗ String :=
  toLex (cookie.domain, toLex (cookie.path, cookie.name))

def content (cookie : CanonicalCookie Attributes) : String × String × String × String :=
  (cookie.domain, cookie.path, cookie.name, cookie.value)

theorem key_eq_of_content_eq {first second : CanonicalCookie Attributes}
    (same : first.content = second.content) : first.key = second.key := by
  obtain ⟨domains, rest⟩ := Prod.mk.inj same
  obtain ⟨paths, rest⟩ := Prod.mk.inj rest
  obtain ⟨names, -⟩ := Prod.mk.inj rest
  unfold key
  rw [domains, paths, names]

end CanonicalCookie

abbrev CookieContent := String × String × String × String

def contents {Attributes : Type} (cookies : List (CanonicalCookie Attributes)) :
    Set CookieContent :=
  {content | ∃ cookie ∈ cookies, cookie.content = content}

abbrev CookieSet (Attributes : Type) :=
  OrderedSet (CanonicalCookie.key : CanonicalCookie Attributes → String ×ₗ String ×ₗ String)

structure CookieCache (Url Attributes : Type) where
  cache : Url → String → CookieSet Attributes

namespace CookieCache

variable {Url Attributes : Type}

def initial : CookieCache Url Attributes := ⟨fun _ _ => .empty⟩

/-- The cookies of a set that are not in another one with the same value. -/
def setDifference (first second : CookieSet Attributes) : List (CanonicalCookie Attributes) :=
  first.elements.filter fun cookie =>
    second.elements.all fun other => other.content ≠ cookie.content

/-- Whether something has changed, what was removed and what was added. -/
structure Update (Attributes : Type) where
  changed : Bool
  removed : List (CanonicalCookie Attributes)
  added : List (CanonicalCookie Attributes)

def update [DecidableEq Url] (cookieCache : CookieCache Url Attributes) (url : Url) (name : String)
    (newCookies : List (CanonicalCookie Attributes)) :
    Update Attributes × CookieCache Url Attributes :=
  let oldSet := cookieCache.cache url name
  let newSet : CookieSet Attributes := .ofList newCookies
  let added := setDifference newSet oldSet
  let removed := setDifference oldSet newSet
  if added.isEmpty && removed.isEmpty then (⟨false, [], []⟩, cookieCache)
  else
    (⟨true, removed, added⟩,
      ⟨fun otherUrl otherName =>
        if otherUrl = url ∧ otherName = name then newSet else cookieCache.cache otherUrl otherName⟩)

/-! ## Changes -/

inductive CookieChangeCause where
  | unknownDeletion
  | inserted
deriving DecidableEq, Repr

structure Change (Attributes : Type) where
  cookie : CanonicalCookie Attributes
  cause : CookieChangeCause
deriving DecidableEq

/-- Some changes lead from some contents to others when each of them removes what is there or
adds what is not. -/
inductive Follows : Set CookieContent → List (Change Attributes) → Set CookieContent → Prop where
  | nil (held : Set CookieContent) : Follows held [] held
  | removed {held last : Set CookieContent} {cookie : CanonicalCookie Attributes}
      {changes : List (Change Attributes)} (mem : cookie.content ∈ held)
      (rest : Follows (held \ {cookie.content}) changes last) :
      Follows held (⟨cookie, .unknownDeletion⟩ :: changes) last
  | added {held last : Set CookieContent} {cookie : CanonicalCookie Attributes}
      {changes : List (Change Attributes)} (notMem : cookie.content ∉ held)
      (rest : Follows (Insert.insert cookie.content held) changes last) :
      Follows held (⟨cookie, .inserted⟩ :: changes) last

def Update.changes (update : Update Attributes) : List (Change Attributes) :=
  update.removed.map (fun cookie => ⟨cookie, .unknownDeletion⟩) ++
    update.added.map fun cookie => ⟨cookie, .inserted⟩

variable {cookie : CanonicalCookie Attributes}

section Follows

variable {held middle last : Set CookieContent} {changes more : List (Change Attributes)}
variable {cookies : List (CanonicalCookie Attributes)}

theorem Follows.append (first : Follows held changes middle) (rest : Follows middle more last) :
    Follows held (changes ++ more) last := by
  induction first with
  | nil _ => exact rest
  | removed mem _ ih => exact .removed mem (ih rest)
  | added notMem _ ih => exact .added notMem (ih rest)

theorem Follows.eq_of_nil (follows : Follows held ([] : List (Change Attributes)) last) :
    last = held := by
  cases follows
  rfl

/-- Changes that lead to some contents lead there from one place only. -/
theorem Follows.eq_of_same_last {other : Set CookieContent} (first : Follows held changes last)
    (second : Follows other changes last) : held = other := by
  induction first generalizing other with
  | nil _ => exact second.eq_of_nil
  | removed _ _ _ =>
    cases second
    grind [Set.insert_sdiff_singleton]
  | added _ _ _ =>
    cases second
    grind

theorem mem_contents (mem : cookie ∈ cookies) : cookie.content ∈ contents cookies :=
  ⟨cookie, mem, rfl⟩

theorem contents_cons (cookie : CanonicalCookie Attributes) :
    contents (cookie :: cookies) = Insert.insert cookie.content (contents cookies) := by
  grind [contents]

/-- Different cookies that are there can be removed one after the other. -/
theorem follows_removals (distinct : (cookies.map CanonicalCookie.content).Nodup)
    (mem : contents cookies ⊆ held) :
    Follows held (cookies.map fun cookie => ⟨cookie, .unknownDeletion⟩)
      (held \ contents cookies) := by
  induction cookies generalizing held with
  | nil =>
    simpa [contents] using .nil held
  | cons cookie rest ih =>
    obtain ⟨notMem, distinctRest⟩ := List.nodup_cons.mp distinct
    rw [contents_cons] at mem ⊢
    have split : held \ Insert.insert cookie.content (contents rest) =
        (held \ {cookie.content}) \ contents rest := by
      grind
    rw [split]
    refine .removed (mem (Set.mem_insert _ _)) (ih distinctRest ?_)
    grind [contents]

/-- Different cookies that are not there can be added one after the other. -/
theorem follows_additions (distinct : (cookies.map CanonicalCookie.content).Nodup)
    (disjoint : ∀ cookie ∈ cookies, cookie.content ∉ held) :
    Follows held (cookies.map fun cookie => ⟨cookie, .inserted⟩) (held ∪ contents cookies) := by
  induction cookies generalizing held with
  | nil =>
    simpa [contents] using .nil held
  | cons cookie rest ih =>
    obtain ⟨notMem, distinctRest⟩ := List.nodup_cons.mp distinct
    have split : held ∪ contents (cookie :: rest) =
        Insert.insert cookie.content held ∪ contents rest := by
      simp [contents_cons, Set.insert_union]
    rw [split]
    refine .added (disjoint cookie List.mem_cons_self) (ih distinctRest ?_)
    grind

end Follows

/-! ## What an update tells -/

theorem mem_setDifference {first second : CookieSet Attributes} :
    cookie ∈ setDifference first second ↔
      cookie ∈ first.elements ∧ cookie.content ∉ contents second.elements := by
  grind [setDifference, contents]

/-- The cookies of a set differ in their contents. -/
theorem nodup_contents (set : CookieSet Attributes) :
    (set.elements.map CanonicalCookie.content).Nodup := by
  grind [CanonicalCookie.key_eq_of_content_eq, set.sorted.imp]

theorem nodup_setDifference (first second : CookieSet Attributes) :
    ((setDifference first second).map CanonicalCookie.content).Nodup :=
  (nodup_contents first).sublist (List.filter_sublist.map _)

theorem follows_setDifferences (first second : CookieSet Attributes) :
    Follows (contents first.elements)
      (Update.changes ⟨true, setDifference first second, setDifference second first⟩)
      (contents second.elements) := by
  have removes : contents (setDifference first second) ⊆ contents first.elements := by
    grind [contents, setDifference]
  have last : (contents first.elements \ contents (setDifference first second)) ∪
      contents (setDifference second first) = contents second.elements := by
    ext content
    constructor
    · rintro (⟨⟨cookie, mem, rfl⟩, kept⟩ | ⟨cookie, mem, rfl⟩)
      · by_contra notMem
        exact kept (mem_contents (mem_setDifference.mpr ⟨mem, notMem⟩))
      · exact mem_contents (mem_setDifference.mp mem).1
    · rintro ⟨cookie, mem, rfl⟩
      grind [contents, setDifference, mem_contents]
  rw [← last]
  refine (follows_removals (nodup_setDifference first second) removes).append
    (follows_additions (nodup_setDifference second first) ?_)
  grind [setDifference, contents]

section Update

variable [DecidableEq Url] {cookieCache : CookieCache Url Attributes} {url otherUrl : Url}
variable {name otherName : String} {cookies : List (CanonicalCookie Attributes)}

/-- An update tells just the changes, and the cache has the contents of the new cookies. -/
theorem follows_update
    (distinct : cookies.Pairwise fun first second => first.key ≠ second.key) :
    Follows (contents (cookieCache.cache url name).elements)
        (cookieCache.update url name cookies).1.changes (contents cookies) ∧
      contents ((cookieCache.update url name cookies).2.cache url name).elements =
        contents cookies := by
  have newContents :
      contents (OrderedSet.ofList cookies : CookieSet Attributes).elements = contents cookies := by
    ext content
    exact exists_congr fun cookie => and_congr_left fun _ => OrderedSet.mem_ofList distinct
  have follows := follows_setDifferences (cookieCache.cache url name) (.ofList cookies)
  rw [newContents] at follows
  dsimp only [update]
  split
  case isTrue unchanged =>
    obtain ⟨noneAdded, noneRemoved⟩ := Bool.and_eq_true_iff.mp unchanged
    rw [List.isEmpty_iff.mp noneAdded, List.isEmpty_iff.mp noneRemoved] at follows
    exact ⟨follows, (Follows.eq_of_nil follows).symm⟩
  case isFalse =>
    simp [follows, newContents]

theorem changes_of_unchanged
    (unchanged : (cookieCache.update url name cookies).1.changed = false) :
    (cookieCache.update url name cookies).1.changes = [] := by
  dsimp only [update] at unchanged ⊢
  split at unchanged
  case isTrue same => rw [if_pos same]; rfl
  case isFalse => cases unchanged

theorem update_other (differs : ¬ (otherUrl = url ∧ otherName = name)) :
    (cookieCache.update url name cookies).2.cache otherUrl otherName =
      cookieCache.cache otherUrl otherName := by
  grind [update]

end Update

end CookieCache

end ChromiumIos
