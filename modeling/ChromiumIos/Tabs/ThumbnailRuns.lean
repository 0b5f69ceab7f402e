import ChromiumIos.Tabs.TabGridThumbnails

/-!
# Thumbnails over whole runs

What a completion caches is what its retrieval brings.  An image that is under way shows the
latest snapshot as long as no snapshot is changed behind its back, and so does then whatever
is cached; a cache that is cleared when no preload is under way fills only by a new one.
-/

namespace ChromiumIos

open Lib SnapshotCache

variable {Id Image : Type} [DecidableEq Id]

namespace SnapshotCache

/-- The reply that runs is the first of the answers to come. -/
theorem runReply_inFlight (readBack : Image → Option Image) {cache after : SnapshotCache Id Image}
    {events : List (SnapshotEvent Id Image)} (ran : cache.runReply = some (after, events)) :
    ∃ answer, events = [.callback answer.1 answer.2] ∧
      cache.inFlight readBack = answer :: after.inFlight readBack := by
  unfold runReply at ran
  split at ran
  · cases ran
  · next sessionID rest replies =>
      cases ran
      simp [inFlight, replies]
  · next sessionID image rest replies =>
      cases ran
      simp [inFlight, replies]

end SnapshotCache

namespace TabGridMediator

variable {readBack : Image → Option Image} {latest : Store Id Image}
variable {mediator after : TabGridMediator Id Image}
variable {events : List (SnapshotEvent Id Image)}

/-! ## Retrievals -/

variable {other : Id} {input : Input Id Image} (completion : SnapshotCompletion Id)
  (image : Option Image) (sessionID : Id)

/-- A snapshot in memory is handed over, one that is not is read or missing. -/
theorem retrieveColorSnapshot_cases (mediator : TabGridMediator Id Image) (sessionID : Id)
    (completion : SnapshotCompletion Id) :
    (∃ image lruCache, (sessionID, image) ∈ mediator.snapshotCache.lruCache.entries ∧
      (∀ entry ∈ lruCache.entries, entry ∈ mediator.snapshotCache.lruCache.entries) ∧
      mediator.retrieveColorSnapshot sessionID completion =
        ((mediator.withLRUCache lruCache).complete completion (some image),
          [.callback sessionID (some image)])) ∨
    (∀ image, (sessionID, image) ∉ mediator.snapshotCache.lruCache.entries) ∧
      (mediator.snapshotCache.taskRunner = true ∧
        mediator.retrieveColorSnapshot sessionID completion =
          ({ mediator.postTask (.readImage sessionID) with
            completions := mediator.completions ++ [completion] }, []) ∨
      mediator.snapshotCache.taskRunner = false ∧
        mediator.retrieveColorSnapshot sessionID completion =
          (mediator.complete completion none, [.callback sessionID none])) := by
  unfold retrieveColorSnapshot retrieveImageForSessionID
  have inside : ∀ entry ∈ (mediator.snapshotCache.lruCache.objectForKey sessionID).2.entries,
      entry ∈ mediator.snapshotCache.lruCache.entries := fun _ => LRUCache.mem_objectForKey
  cases found : mediator.snapshotCache.lruCache.entries.find? (·.1 = sessionID) with
  | some entry =>
    have matched := List.find?_some found
    have key : entry.1 = sessionID := of_decide_eq_true matched
    have mem := List.mem_of_find?_eq_some found
    unfold LRUCache.objectForKey at inside ⊢
    rw [found] at inside ⊢
    refine .inl ⟨entry.2, _, ?_, inside, rfl⟩
    rw [← key]
    exact mem
  | none =>
    have absent : ∀ image, (sessionID, image) ∉ mediator.snapshotCache.lruCache.entries :=
      by grind
    unfold LRUCache.objectForKey
    rw [found]
    refine .inr ⟨absent, ?_⟩
    by_cases running : mediator.snapshotCache.taskRunner = true
    · simp [postTask, running]
    · simp [running]

@[simp]
theorem inFlight_postTask_read :
    (mediator.postTask (.readImage sessionID)).snapshotCache.inFlight readBack =
      mediator.snapshotCache.inFlight readBack ++
        [(sessionID, (mediator.snapshotCache.due sessionID).bind readBack)] := by
  unfold postTask inFlight
  rw [answers_append, ← List.append_assoc]
  rfl

@[simp]
theorem inFlight_postTask_write (image : Image) :
    (mediator.postTask (.writeImage sessionID image)).snapshotCache.inFlight readBack =
      mediator.snapshotCache.inFlight readBack := by
  unfold postTask inFlight
  simp [answers, answers_append]

@[simp]
theorem inFlight_postTask_delete :
    (mediator.postTask (.deleteImage sessionID)).snapshotCache.inFlight readBack =
      mediator.snapshotCache.inFlight readBack := by
  unfold postTask inFlight
  simp [answers, answers_append]

@[simp]
theorem snapshotCache_complete :
    (mediator.complete completion image).snapshotCache = mediator.snapshotCache := by
  cases completion <;> rfl

@[simp]
theorem completions_complete :
    (mediator.complete completion image).completions = mediator.completions := by
  cases completion <;> rfl

/-! ## Completions and the answers they wait for -/

/-- Each completion and the answer that it will be given are related. -/
def Paired (readBack : Image → Option Image)
    (Related : SnapshotCompletion Id → Id × Option Image → Prop)
    (mediator : TabGridMediator Id Image) : Prop :=
  List.Forall₂ Related mediator.completions (mediator.snapshotCache.inFlight readBack)

section Paired

variable {Related : SnapshotCompletion Id → Id × Option Image → Prop}

variable (paired : Paired readBack Related mediator)
include paired

theorem Paired.of_same (completions : after.completions = mediator.completions)
    (inFlight : after.snapshotCache.inFlight readBack =
      mediator.snapshotCache.inFlight readBack) : Paired readBack Related after := by
  unfold Paired
  rw [completions, inFlight]
  exact paired

theorem Paired.retrieve {sessionID : Id} {completion : SnapshotCompletion Id}
    (new : ∀ image, Related completion (sessionID, image)) :
    Paired readBack Related (mediator.retrieveColorSnapshot sessionID completion).1 := by
  rcases mediator.retrieveColorSnapshot_cases sessionID completion with
    ⟨image, lruCache, -, -, handed⟩ | ⟨-, ⟨-, posted⟩ | ⟨-, missing⟩⟩
  · rw [handed]
    exact paired.of_same (completions_complete ..) (by rw [snapshotCache_complete]; rfl)
  · simpa [posted, Paired] using List.rel_append paired (.cons (new _) .nil)
  · rw [missing]
    exact paired.of_same (completions_complete ..) (by rw [snapshotCache_complete])

/-- The first reply answers the first completion. -/
theorem Paired.runReply (ran : mediator.runReply = some (after, events)) :
    Paired readBack Related after ∧ ∃ completion answer snapshotCache completions,
      Related completion answer ∧
      mediator.snapshotCache.runReply = some (snapshotCache, events) ∧
      answer ∈ mediator.snapshotCache.inFlight readBack ∧
      after = ({ mediator with snapshotCache, completions }.complete completion answer.2) := by
  obtain ⟨⟨snapshotCache, reported⟩, replied, ran⟩ := Option.bind_eq_some_iff.mp ran
  obtain ⟨answer, rfl, inFlight⟩ := runReply_inFlight readBack replied
  unfold Paired at paired
  rw [inFlight] at paired
  cases waiting : mediator.completions with
  | nil =>
    rw [waiting] at paired
    cases paired
  | cons _ _ =>
    rw [waiting] at paired ran
    cases paired with
    | cons _ _ =>
      grind [Paired, completions_complete, snapshotCache_complete]

end Paired

/-! ## What is reported -/

theorem updates_retrieve (mediator : TabGridMediator Id Image) (sessionID : Id)
    (completion : SnapshotCompletion Id) :
    updates (mediator.retrieveColorSnapshot sessionID completion).2 = [] := by
  rcases mediator.retrieveColorSnapshot_cases sessionID completion with
    ⟨image, lruCache, -, -, handed⟩ | ⟨-, ⟨-, posted⟩ | ⟨-, missing⟩⟩
  · rw [handed]
    rfl
  · rw [posted]
    rfl
  · rw [missing]
    rfl

variable (identifier : Id) (visible : List Id)

theorem updates_ask (mediator : TabGridMediator Id Image) (identifier : Id)
    (completion : SnapshotCompletion Id) :
    updates (mediator.snapshotForIdentifier identifier completion).2 = [] := by
  unfold snapshotForIdentifier
  split
  · rfl
  · split
    · exact mediator.updates_retrieve identifier completion
    · rfl

theorem withoutThumbnail_self (mediator : TabGridMediator Id Image) (identifier : Id) :
    (mediator.withoutThumbnail identifier).appearanceCache identifier = none :=
  Store.write_self

theorem withoutThumbnail_of_ne {identifier : Id} (different : other ≠ identifier) :
    (mediator.withoutThumbnail identifier).appearanceCache other =
      mediator.appearanceCache other :=
  Store.write_of_ne different

/-- The cell of a tab on the screen retrieves the snapshot of the tab anew. -/
theorem didUpdateSnapshotForIdentifier_cases (mediator : TabGridMediator Id Image)
    (identifier : Id) (visible : List Id) :
    mediator.didUpdateSnapshotForIdentifier identifier visible =
      (mediator.withoutThumbnail identifier, []) ∨
    identifier ∈ mediator.identifiers ∧ identifier ∈ visible ∧
      mediator.didUpdateSnapshotForIdentifier identifier visible =
        (mediator.withoutThumbnail identifier).retrieveColorSnapshot identifier .showImage := by
  grind [didUpdateSnapshotForIdentifier, snapshotForIdentifier, withoutThumbnail_self]

/-- An image that was just set is handed to the cell that asks for it. -/
theorem told_setImage (mediator : TabGridMediator Id Image) (image : Image) (sessionID : Id)
    (visible : List Id) :
    ∃ lruCache events,
      (∀ entry ∈ lruCache.entries,
        entry ∈ (mediator.snapshotCache.lruCache.setObject image sessionID).entries) ∧
      updates events = [] ∧
      (mediator.withLRUCache (mediator.snapshotCache.lruCache.setObject image
        sessionID)).didUpdateSnapshotForIdentifier sessionID visible =
        ((mediator.withLRUCache lruCache).withoutThumbnail sessionID, events) := by
  have stored : (sessionID, image) ∈
      (mediator.snapshotCache.lruCache.setObject image sessionID).entries :=
    List.mem_cons_self
  rcases (mediator.withLRUCache (mediator.snapshotCache.lruCache.setObject image
      sessionID)).didUpdateSnapshotForIdentifier_cases sessionID visible with
    dropped | ⟨-, -, retrieved⟩
  · exact ⟨_, _, fun _ mem => mem, rfl, dropped⟩
  · rw [retrieved]
    rcases TabGridMediator.retrieveColorSnapshot_cases _ sessionID .showImage with
      ⟨shown, lruCache, -, inside, handed⟩ | ⟨absent, -⟩
    · exact ⟨lruCache, _, inside, rfl, handed⟩
    · exact absurd stored (absent image)

/-- The mediator when it has been told that a snapshot is removed: the image is out of memory,
but its file is not yet to be deleted. -/
structure ToldOfRemoval (readBack : Image → Option Image) (sessionID : Id) (visible : List Id)
    (mediator told : TabGridMediator Id Image) : Prop where
  lruCache : told.snapshotCache.lruCache =
    mediator.snapshotCache.lruCache.removeObjectForKey sessionID
  markedIDs : told.snapshotCache.markedIDs = mediator.snapshotCache.markedIDs
  taskRunner : told.snapshotCache.taskRunner = mediator.snapshotCache.taskRunner
  identifiers : told.identifiers = mediator.identifiers
  appearanceCache : told.appearanceCache = (mediator.withoutThumbnail sessionID).appearanceCache
  due : told.snapshotCache.due = mediator.snapshotCache.due
  inFlight : ∀ answer ∈ told.snapshotCache.inFlight readBack,
    answer ∈ mediator.snapshotCache.inFlight readBack ∨
      sessionID ∈ mediator.identifiers ∧ sessionID ∈ visible ∧
        mediator.snapshotCache.taskRunner = true ∧
        answer = (sessionID, (mediator.snapshotCache.due sessionID).bind readBack)

theorem told_removal (readBack : Image → Option Image) (mediator : TabGridMediator Id Image)
    (sessionID : Id) (visible : List Id) :
    ∃ told events, updates events = [] ∧
      (mediator.withLRUCache (mediator.snapshotCache.lruCache.removeObjectForKey
        sessionID)).didUpdateSnapshotForIdentifier sessionID visible = (told, events) ∧
      ToldOfRemoval readBack sessionID visible mediator told := by
  rcases (mediator.withLRUCache (mediator.snapshotCache.lruCache.removeObjectForKey
      sessionID)).didUpdateSnapshotForIdentifier_cases sessionID visible with
    dropped | ⟨listed, onScreen, retrieved⟩
  · exact ⟨_, _, rfl, dropped, rfl, rfl, rfl, rfl, rfl, rfl, fun _ mem => .inl mem⟩
  · rw [retrieved]
    rcases ((mediator.withLRUCache (mediator.snapshotCache.lruCache.removeObjectForKey
        sessionID)).withoutThumbnail sessionID).retrieveColorSnapshot_cases sessionID
        .showImage with
      ⟨image, lruCache, stored, -, -⟩ | ⟨-, ⟨running, posted⟩ | ⟨-, missing⟩⟩
    · exact absurd rfl (LRUCache.mem_removeObjectForKey stored).1
    · refine ⟨_, _, rfl, posted, rfl, rfl, rfl, rfl, rfl, ?_, ?_⟩
      · unfold due
        rw [postTask, writes_concat_read]
        rfl
      · intro answer mem
        rw [inFlight_postTask_read] at mem
        exact (List.mem_append.mp mem).imp id fun new =>
          ⟨listed, onScreen, running, List.mem_singleton.mp new⟩
    · exact ⟨_, _, rfl, missing, rfl, rfl, rfl, rfl, rfl, rfl, fun _ mem => .inl mem⟩

/-- No answer under way brings the image that is removed. -/
theorem Removable.quiet {sessionID : Id} {visible : List Id} {told : TabGridMediator Id Image}
    (removable : mediator.Removable readBack sessionID visible)
    (removal : ToldOfRemoval readBack sessionID visible mediator told) {other : Id}
    (quiet : mediator.snapshotCache.Quiet readBack other) :
    told.snapshotCache.Quiet readBack other := by
  intro answer mem same
  rcases removal.inFlight answer mem with old | ⟨listed, onScreen, running, rfl⟩
  · exact quiet answer old same
  · exact removable.2 listed onScreen running

/-! ## Thumbnails that show the latest snapshots -/

/-- A completion that caches an image waits for an answer about the same tab. -/
def Awaits : SnapshotCompletion Id → Id × Option Image → Prop
  | .cacheImage identifier, answer => answer.1 = identifier
  | .showImage, _ => True

structure Current (readBack : Image → Option Image) (latest : Store Id Image)
    (mediator : TabGridMediator Id Image) : Prop where
  sound : SnapshotCache.Sound readBack latest mediator.snapshotCache
  thumbnails : ∀ identifier image, mediator.appearanceCache identifier = some image →
    Shows readBack (latest identifier) image
  awaited : Paired readBack Awaits mediator

namespace Current

variable (current : Current readBack latest mediator)

include current

variable {completion : SnapshotCompletion Id} {sessionID : Id}
variable {image : Option Image}

theorem complete
    (shows : ∀ identifier shown, completion = .cacheImage identifier → image = some shown →
      Shows readBack (latest identifier) shown) :
    Current readBack latest (mediator.complete completion image) := by
  cases completion with
  | showImage => exact current
  | cacheImage identifier =>
    refine ⟨current.sound, ?_, current.awaited⟩
    intro other shown cached
    by_cases same : other = identifier
    · subst same
      refine shows other shown rfl ?_
      rw [← cached]
      exact Store.write_self.symm
    · refine current.thumbnails other shown ?_
      rw [← cached]
      exact (Store.write_of_ne same).symm

theorem withoutThumbnail : Current readBack latest (mediator.withoutThumbnail identifier) := by
  refine ⟨current.sound, ?_, current.awaited⟩
  intro other shown cached
  by_cases same : other = identifier
  · subst same
    rw [withoutThumbnail_self] at cached
    cases cached
  · rw [withoutThumbnail_of_ne same] at cached
    exact current.thumbnails other shown cached

theorem withLRUCache {lruCache : LRUCache Id Image}
    (inside : ∀ entry ∈ lruCache.entries, entry ∈ mediator.snapshotCache.lruCache.entries) :
    Current readBack latest (mediator.withLRUCache lruCache) :=
  ⟨current.sound.congr rfl rfl inside id, current.thumbnails, current.awaited⟩

theorem retrieve
    (own : ∀ identifier, completion = .cacheImage identifier → identifier = sessionID) :
    Current readBack latest (mediator.retrieveColorSnapshot sessionID completion).1 := by
  have awaits : ∀ image : Option Image, Awaits completion (sessionID, image) := by
    intro image
    cases completion <;> grind [Awaits]
  have paired := current.awaited.retrieve awaits
  rcases mediator.retrieveColorSnapshot_cases sessionID completion with
    ⟨image, lruCache, mem, inside, handed⟩ | ⟨-, ⟨running, posted⟩ | ⟨-, missing⟩⟩
  · rw [handed]
    refine (current.withLRUCache inside).complete ?_
    intro identifier shown caches same
    cases same
    rw [own identifier caches]
    exact current.sound.memory sessionID image mem
  · rw [posted] at paired ⊢
    exact ⟨current.sound.postRead sessionID running, current.thumbnails, paired⟩
  · rw [missing]
    refine current.complete ?_
    simp

theorem ask {identifier : Id} (own : ∀ other, completion = .cacheImage other → other = identifier) :
    Current readBack latest (mediator.snapshotForIdentifier identifier completion).1 := by
  unfold snapshotForIdentifier
  split
  · next image cached =>
      refine current.complete ?_
      intro other shown caches same
      cases same
      rw [own other caches]
      exact current.thumbnails identifier image cached
  · split
    · exact current.retrieve own
    · exact current

theorem didUpdate :
    Current readBack latest
      (mediator.didUpdateSnapshotForIdentifier identifier visible).1 := by
  rcases mediator.didUpdateSnapshotForIdentifier_cases identifier visible with
    dropped | ⟨-, -, retrieved⟩
  · rw [dropped]
    exact current.withoutThumbnail identifier
  · rw [retrieved]
    exact (current.withoutThumbnail identifier).retrieve fun _ impossible => by cases impossible

theorem preloadEach {indices : List Int}
    (preloaded : mediator.preloadEach indices = some (after, events)) :
    Current readBack latest after ∧ updates events = [] := by
  induction indices generalizing mediator events with
  | nil =>
    cases preloaded
    exact ⟨current, rfl⟩
  | cons _ _ ih =>
    obtain ⟨identifier, -, preloaded⟩ := Option.bind_eq_some_iff.mp preloaded
    obtain ⟨⟨_, _⟩, continued, result⟩ := Option.bind_eq_some_iff.mp preloaded
    cases result
    have asked : Current readBack latest (mediator.snapshotForIdentifier identifier
        (.cacheImage identifier)).1 :=
      current.ask fun other same => by cases same; rfl
    obtain ⟨reached, silent⟩ := ih asked continued
    refine ⟨reached, ?_⟩
    rw [updates_append, silent, List.append_nil]
    exact mediator.updates_ask identifier (.cacheImage identifier)

/-- The thumbnail of a tab is dropped when the snapshot of the tab changes. -/
theorem thumbnails_write (shown : Image)
    (cached : (mediator.withoutThumbnail sessionID).appearanceCache identifier = some shown) :
    Shows readBack (latest.write (sessionID, image) identifier) shown := by
  by_cases same : identifier = sessionID
  · subst same
    rw [withoutThumbnail_self] at cached
    cases cached
  · rw [withoutThumbnail_of_ne same] at cached
    rw [Store.write_of_ne same]
    exact current.thumbnails identifier shown cached

/-- The new image is in memory when the mediator is told of it. -/
theorem setImage (image : Option Image) (visible : List Id)
    (quiet : image.isSome → mediator.snapshotCache.taskRunner = true →
      mediator.snapshotCache.Quiet readBack sessionID) :
    Current readBack (latest.writeAll (updates (mediator.setImage image sessionID visible).2))
      (mediator.setImage image sessionID visible).1 := by
  cases image with
  | none => exact current
  | some image =>
    by_cases running : mediator.snapshotCache.taskRunner = true
    · obtain ⟨_, events, inside, silent, told⟩ :=
        mediator.told_setImage image sessionID visible
      have sound := setImage_sound current.sound (some image) (quiet rfl running)
      unfold SnapshotCache.setImage at sound
      dsimp only at sound
      rw [if_pos running] at sound
      unfold TabGridMediator.setImage
      dsimp only
      rw [if_pos running, told]
      have updated : updates (.didUpdate sessionID (some image) :: events) =
          [(sessionID, some image)] := congrArg ((sessionID, some image) :: ·) silent
      rw [updated]
      refine ⟨sound.congr rfl rfl inside id, ?_, current.awaited.of_same rfl ?_⟩
      · exact current.thumbnails_write
      · exact inFlight_postTask_write ..
    · simp [Store.writeAll, updates, TabGridMediator.setImage, running, current]

theorem removeImage (removable : sessionID ∉ mediator.snapshotCache.markedIDs →
      mediator.Removable readBack sessionID visible) :
    Current readBack
      (latest.writeAll (updates (mediator.removeImageWithSessionID sessionID visible).2))
      (mediator.removeImageWithSessionID sessionID visible).1 := by
  unfold TabGridMediator.removeImageWithSessionID
  split
  · exact current
  · next unmarked =>
      obtain ⟨told, events, silent, returned, removal⟩ :=
        mediator.told_removal readBack sessionID visible
      have toldCurrent : Current readBack latest told := by
        have removed : Current readBack latest (mediator.withLRUCache
            (mediator.snapshotCache.lruCache.removeObjectForKey sessionID)) :=
          current.withLRUCache fun _ mem => (LRUCache.mem_removeObjectForKey mem).2
        have next := removed.didUpdate sessionID visible
        rw [returned] at next
        exact next
      have quiet := (removable unmarked).quiet removal (removable unmarked).1
      have sound := removeImage_sound toldCurrent.sound fun _ => quiet
      unfold SnapshotCache.removeImageWithSessionID at sound
      rw [removal.markedIDs, if_neg unmarked] at sound
      dsimp only
      rw [returned]
      have updated : updates (.didUpdate sessionID none :: events) = [(sessionID, none)] :=
        congrArg ((sessionID, (none : Option Image)) :: ·) silent
      rw [updated]
      have kept : ∀ entry ∈ told.snapshotCache.lruCache.entries,
          entry ∈ (told.snapshotCache.lruCache.removeObjectForKey sessionID).entries := by
        simp [LRUCache.removeObjectForKey, removal.lruCache]
      have thumbnails : ∀ other shown, told.appearanceCache other = some shown →
          Shows readBack (latest.write (sessionID, none) other) shown := by
        intro other shown cached
        rw [removal.appearanceCache] at cached
        exact current.thumbnails_write other shown cached
      by_cases running : told.snapshotCache.taskRunner = true
      · rw [if_pos running] at sound ⊢
        exact ⟨sound.congr rfl rfl kept id, thumbnails,
          toldCurrent.awaited.of_same rfl (inFlight_postTask_delete ..)⟩
      · rw [if_neg running] at sound ⊢
        exact ⟨sound.congr rfl rfl kept id, thumbnails, toldCurrent.awaited⟩

omit current in
/-- Removing one snapshot leaves the others removable. -/
theorem removable_after {visible : List Id}
    (removable : mediator.Removable readBack sessionID visible)
    (others : mediator.Removable readBack other visible) :
    (mediator.removeImageWithSessionID sessionID visible).1.Removable readBack other visible := by
  unfold TabGridMediator.removeImageWithSessionID
  split
  · exact others
  · obtain ⟨told, _, -, returned, removal⟩ :=
      mediator.told_removal readBack sessionID visible
    have quiet := removable.quiet removal others.1
    dsimp only
    rw [returned]
    have reread : told.RereadsNothing readBack other visible := by
      simpa [RereadsNothing, removal.identifiers, removal.due, removal.taskRunner] using others.2
    split
    · refine ⟨?_, ?_⟩
      · simpa [Quiet] using quiet
      · intro listed onScreen running
        have before := reread listed onScreen running
        unfold due postTask
        rw [writes_concat_delete, Store.writeAll_concat]
        by_cases same : other = sessionID
        · simp [same]
        · rw [Store.write_of_ne same]
          exact before
    · exact ⟨quiet, reread⟩

theorem removeEach {visible : List Id} (ids : List Id)
    (removable : ∀ sessionID ∈ ids, mediator.Removable readBack sessionID visible) :
    Current readBack (latest.writeAll (updates (mediator.removeEach visible ids).2))
      (mediator.removeEach visible ids).1 := by
  induction ids generalizing mediator latest with
  | nil => exact ⟨current.sound.congr rfl rfl (fun _ mem => mem) id, current.thumbnails,
      current.awaited⟩
  | cons sessionID rest ih =>
    have marked : Current readBack latest (mediator.withMarkedIDs rest) :=
      ⟨current.sound.congr rfl rfl (fun _ mem => mem) id, current.thumbnails, current.awaited⟩
    have first : (mediator.withMarkedIDs rest).Removable readBack sessionID visible :=
      removable sessionID List.mem_cons_self
    have removed := marked.removeImage visible fun _ => first
    have last := ih removed fun other mem =>
      removable_after first (removable other (List.mem_cons_of_mem _ mem))
    simpa [TabGridMediator.removeEach, Store.writeAll] using last

theorem runReply (ran : mediator.runReply = some (after, events)) :
    Current readBack latest after ∧ updates events = [] := by
  obtain ⟨paired, _, answer, snapshotCache, completions, awaits, replied, mem, rfl⟩ :=
    current.awaited.runReply ran
  obtain ⟨_, rfl, -⟩ := runReply_inFlight readBack replied
  have replaced : Current readBack latest { mediator with snapshotCache, completions } :=
    ⟨runReply_sound current.sound replied, current.thumbnails,
      paired.of_same (completions_complete ..).symm (by rw [snapshotCache_complete])⟩
  refine ⟨replaced.complete ?_, rfl⟩
  rintro identifier shown rfl brought
  have tab : answer.1 = identifier := awaits
  rw [← tab]
  refine current.sound.flying answer.1 shown ?_
  rw [← brought]
  exact mem

theorem step (undisturbed : mediator.Undisturbed readBack input)
    (stepped : mediator.step readBack input = some (after, events)) :
    Current readBack (latest.writeAll (updates events)) after := by
  have unchanged : ∀ {cache : SnapshotCache Id Image},
      cache.due = mediator.snapshotCache.due →
      cache.inFlight readBack = mediator.snapshotCache.inFlight readBack →
      cache.lruCache = mediator.snapshotCache.lruCache →
      (cache.taskRunner = true → mediator.snapshotCache.taskRunner = true) →
      Current readBack latest { mediator with snapshotCache := cache } := by
    intro cache due inFlight memory running
    exact ⟨current.sound.congr due inFlight (fun _ mem => memory ▸ mem) running,
      current.thumbnails, current.awaited.of_same rfl inFlight⟩
  cases input with
  | preloadSnapshots _ =>
    obtain ⟨reached, silent⟩ := current.preloadEach stepped
    rw [silent]
    exact reached
  | clearPreloadedSnapshots =>
    cases stepped
    exact ⟨current.sound, fun _ _ impossible => (by cases impossible), current.awaited⟩
  | snapshotForIdentifier identifier =>
    have asked : Current readBack latest
        (mediator.snapshotForIdentifier identifier .showImage).1 :=
      current.ask fun _ impossible => by cases impossible
    have silent := mediator.updates_ask identifier .showImage
    rw [Option.some.inj stepped] at asked silent
    rw [silent]
    exact asked
  | retrieveImage sessionID =>
    have retrieved : Current readBack latest
        (mediator.retrieveColorSnapshot sessionID .showImage).1 :=
      current.retrieve fun _ impossible => by cases impossible
    have silent := mediator.updates_retrieve sessionID .showImage
    rw [Option.some.inj stepped] at retrieved silent
    rw [silent]
    exact retrieved
  | setImage image _ visible =>
    have kept := current.setImage image visible undisturbed
    rw [Option.some.inj stepped] at kept
    exact kept
  | removeImage _ visible =>
    have kept := current.removeImage visible undisturbed
    rw [Option.some.inj stepped] at kept
    exact kept
  | markImage sessionID | unmarkAllImages =>
    cases stepped
    exact unchanged rfl rfl rfl id
  | removeMarkedImages _ =>
    have kept := current.removeEach _ undisturbed
    rw [Option.some.inj stepped] at kept
    exact kept
  | shutdown =>
    cases stepped
    exact unchanged rfl rfl rfl (fun impossible => by cases impossible)
  | changeList _ _ =>
    cases stepped
    exact ⟨current.sound, current.thumbnails, current.awaited⟩
  | runTask =>
    obtain ⟨cache, ran, result⟩ := Option.map_eq_some_iff.mp stepped
    grind [Store.writeAll, updates, runTask_same]
  | runReply =>
    obtain ⟨reached, silent⟩ := current.runReply stepped
    rw [silent]
    exact reached

end Current

/-! ## A cache that has been cleared -/

def BringsNothing (completion : SnapshotCompletion Id) (answer : Id × Option Image) : Prop :=
  completion ≠ .showImage → answer.2 = none

structure Cleared (readBack : Image → Option Image) (mediator : TabGridMediator Id Image) :
    Prop where
  empty : ∀ identifier, mediator.appearanceCache identifier = none
  ended : Paired readBack BringsNothing mediator

omit [DecidableEq Id] in
theorem bringsNothing_showImage (answer : Id × Option Image) :
    BringsNothing .showImage answer :=
  fun different => absurd rfl different

theorem appearanceCache_retrieve_showImage (mediator : TabGridMediator Id Image)
    (sessionID : Id) :
    (mediator.retrieveColorSnapshot sessionID .showImage).1.appearanceCache =
      mediator.appearanceCache := by
  rcases mediator.retrieveColorSnapshot_cases sessionID .showImage with
    ⟨image, lruCache, -, -, handed⟩ | ⟨-, ⟨-, posted⟩ | ⟨-, missing⟩⟩
  · rw [handed]
    rfl
  · rw [posted]
    rfl
  · rw [missing]
    rfl

namespace Cleared

variable (cleared : Cleared readBack mediator)

include cleared

theorem of_same (appearanceCache : after.appearanceCache = mediator.appearanceCache)
    (completions : after.completions = mediator.completions)
    (inFlight : after.snapshotCache.inFlight readBack =
      mediator.snapshotCache.inFlight readBack) : Cleared readBack after := by
  refine ⟨?_, cleared.ended.of_same completions inFlight⟩
  rw [appearanceCache]
  exact cleared.empty

theorem retrieve (sessionID : Id) :
    Cleared readBack (mediator.retrieveColorSnapshot sessionID .showImage).1 := by
  refine ⟨?_, cleared.ended.retrieve fun _ => bringsNothing_showImage _⟩
  rw [appearanceCache_retrieve_showImage]
  exact cleared.empty

theorem ask : Cleared readBack (mediator.snapshotForIdentifier identifier .showImage).1 := by
  unfold snapshotForIdentifier
  rw [cleared.empty identifier]
  dsimp only
  split
  · exact cleared.retrieve identifier
  · exact cleared

theorem withoutThumbnail : Cleared readBack (mediator.withoutThumbnail identifier) := by
  refine ⟨fun other => ?_, cleared.ended⟩
  by_cases same : other = identifier
  · subst same
    exact withoutThumbnail_self ..
  · rw [withoutThumbnail_of_ne same]
    exact cleared.empty other

theorem didUpdate :
    Cleared readBack (mediator.didUpdateSnapshotForIdentifier identifier visible).1 := by
  have dropped := cleared.withoutThumbnail identifier
  rcases mediator.didUpdateSnapshotForIdentifier_cases identifier visible with
    unseen | ⟨-, -, retrieved⟩
  · rw [unseen]
    exact dropped
  · rw [retrieved]
    exact dropped.retrieve identifier

theorem setImage (image : Option Image) (sessionID : Id) (visible : List Id) :
    Cleared readBack (mediator.setImage image sessionID visible).1 := by
  cases image with
  | none => exact cleared
  | some image =>
    unfold TabGridMediator.setImage
    dsimp only
    split
    · have stored : Cleared readBack (mediator.withLRUCache
          (mediator.snapshotCache.lruCache.setObject image sessionID)) :=
        cleared.of_same rfl rfl rfl
      exact (stored.didUpdate sessionID visible).of_same rfl rfl (inFlight_postTask_write ..)
    · exact cleared

theorem removeImage : Cleared readBack (mediator.removeImageWithSessionID sessionID visible).1 := by
  unfold TabGridMediator.removeImageWithSessionID
  split
  · exact cleared
  · have removed : Cleared readBack (mediator.withLRUCache
        (mediator.snapshotCache.lruCache.removeObjectForKey sessionID)) :=
      cleared.of_same rfl rfl rfl
    have told := removed.didUpdate sessionID visible
    dsimp only
    split
    · exact told.of_same rfl rfl (inFlight_postTask_delete ..)
    · exact told

theorem removeEach (ids : List Id) : Cleared readBack (mediator.removeEach visible ids).1 := by
  induction ids generalizing mediator with
  | nil => exact cleared.of_same rfl rfl rfl
  | cons sessionID rest ih =>
    have marked : Cleared readBack (mediator.withMarkedIDs rest) :=
      cleared.of_same rfl rfl rfl
    exact ih (marked.removeImage sessionID visible)

theorem runReply (ran : mediator.runReply = some (after, events)) :
    Cleared readBack after := by
  obtain ⟨paired, completion, answer, snapshotCache, completions, nothing, -, -, rfl⟩ :=
    cleared.ended.runReply ran
  have answered : Cleared readBack { mediator with snapshotCache, completions } :=
    ⟨cleared.empty,
      paired.of_same (completions_complete ..).symm (by rw [snapshotCache_complete])⟩
  cases completion with
  | showImage => exact answered
  | cacheImage identifier =>
    have brought : answer.2 = none := nothing fun impossible => by cases impossible
    rw [brought]
    exact answered.withoutThumbnail identifier

/-- Only a preload fills the cache again. -/
theorem step (stepped : mediator.step readBack input = some (after, events))
    (noPreload : input.isPreload = false) : Cleared readBack after := by
  cases input with
  | preloadSnapshots _ => cases noPreload
  | clearPreloadedSnapshots =>
    cases stepped
    exact ⟨fun _ => rfl, cleared.ended⟩
  | snapshotForIdentifier identifier =>
    have kept := cleared.ask identifier
    rw [Option.some.inj stepped] at kept
    exact kept
  | retrieveImage sessionID =>
    have kept := cleared.retrieve sessionID
    rw [Option.some.inj stepped] at kept
    exact kept
  | setImage image sessionID visible =>
    have kept := cleared.setImage image sessionID visible
    rw [Option.some.inj stepped] at kept
    exact kept
  | removeImage sessionID visible =>
    have kept := cleared.removeImage sessionID visible
    rw [Option.some.inj stepped] at kept
    exact kept
  | removeMarkedImages visible =>
    have kept := cleared.removeEach visible mediator.snapshotCache.markedIDs
    rw [Option.some.inj stepped] at kept
    exact kept
  | markImage | unmarkAllImages | shutdown | changeList =>
    cases stepped
    exact cleared.of_same rfl rfl rfl
  | runTask =>
    obtain ⟨_, ran, result⟩ := Option.map_eq_some_iff.mp stepped
    cases result
    exact cleared.of_same rfl rfl (runTask_same ran).2.1
  | runReply => exact cleared.runReply stepped

end Cleared

/-! ## Whole runs -/

/-- In a run in which no change of a snapshot and no clearing is overtaken by a retrieval, every
thumbnail shows the latest snapshot of its tab, and a cache that has been cleared stays empty
until the next preload. -/
theorem run_thumbnails {disk : Store Id Image}
    (run : Runs (TabGridMediator.step readBack)
      (fun mediator input => mediator.Undisturbed readBack input) (init disk) events mediator) :
    (∀ identifier image, mediator.appearanceCache identifier = some image →
      Shows readBack (disk.writeAll (updates events) identifier) image) ∧
    (mediator.Undisturbed readBack .clearPreloadedSnapshots →
      ∀ more later, Runs (TabGridMediator.step readBack)
        (fun mediator input => mediator.Undisturbed readBack input ∧ input.isPreload = false)
        mediator.clearPreloadedSnapshots more later →
        ∀ identifier, later.appearanceCache identifier = none) := by
  have current : Current readBack (disk.writeAll (updates events)) mediator := by
    refine run.invariant_outputs (fun events mediator =>
      Current readBack (disk.writeAll (updates events)) mediator) ?_ ?_
    · refine ⟨⟨?_, ?_, fun _ _ => rfl, fun _ => rfl⟩, ?_, .nil⟩
      · exact fun _ _ impossible => by cases impossible
      · exact fun _ _ impossible => by cases impossible
      · simp [init]
    · intro events mediator after input emitted _ current undisturbed stepped
      simpa [Store.writeAll] using current.step undisturbed stepped
  refine ⟨current.thumbnails, fun noneWaits more later rest => ?_⟩
  have paired := List.forall₂_iff_zip.mp current.awaited
  have cleared : Cleared readBack mediator.clearPreloadedSnapshots :=
    ⟨fun _ => rfl, List.forall₂_iff_zip.mpr ⟨paired.1, fun waiting => noneWaits _ waiting⟩⟩
  have empty : Cleared readBack later :=
    rest.invariant (Cleared readBack) cleared fun cleared accepted stepped =>
      cleared.step stepped accepted.2
  exact empty.empty

/-- The snapshot of one tab is on disk from an earlier launch. -/
def savedThumbnail : Store Nat Nat := Store.write (fun _ => none) (1, some 7)

def replacedOnScreen : List (Input Nat Nat) :=
  [.changeList [1, 2] 0, .preloadSnapshots 4, .runTask, .runTask, .runReply, .runReply,
    .setImage (some 8) 1 [1], .snapshotForIdentifier 2, .preloadSnapshots 4, .runTask, .runTask,
    .runTask, .runReply, .runReply]

theorem run_thumbnails_replacedOnScreen :
    ∃ events, ∃ mediator : TabGridMediator Nat Nat, Runs (TabGridMediator.step some)
      (fun mediator input => mediator.Undisturbed some input)
      (init savedThumbnail) events mediator ∧ mediator.appearanceCache 1 = some 8 ∧
      Shows some (savedThumbnail.writeAll (updates events) 1) 8 ∧
      ∃ more later, Runs (TabGridMediator.step some)
        (fun mediator input => mediator.Undisturbed some input ∧ input.isPreload = false)
        mediator.clearPreloadedSnapshots more later ∧ later.appearanceCache 1 = none := by
  have run : Runs (TabGridMediator.step some)
      (fun mediator input => mediator.Undisturbed some input) (init savedThumbnail) _ _ :=
    Runs.replay replacedOnScreen .start (Option.eq_some_of_isSome (by decide))
  obtain ⟨shows, stays⟩ := run_thumbnails run
  refine ⟨_, _, run, by decide, shows 1 8 (by decide), ?_⟩
  refine Exists.imp (fun _ => Exists.imp fun _ rest => ⟨rest, stays (by decide) _ _ rest 1⟩) ?_
  exact ⟨_, _, Runs.replay [.snapshotForIdentifier 1, .setImage (some 9) 1 [1], .runTask] .start
    (Option.eq_some_of_isSome (by decide))⟩

/-- A snapshot that is being preloaded is replaced before it has been read; and the cache is
cleared while a snapshot is being preloaded. -/
theorem run_overtakenPreload :
    (∃ events, ∃ mediator : TabGridMediator Nat Nat, Runs (TabGridMediator.step some)
      (fun _ _ => True) (init savedThumbnail) events mediator ∧ mediator.completions = [] ∧
      mediator.snapshotCache.tasks = [] ∧ mediator.snapshotCache.replies = [] ∧
      mediator.appearanceCache 1 = some 7 ∧
      savedThumbnail.writeAll (updates events) 1 = some 8 ∧
      ¬ Shows some (savedThumbnail.writeAll (updates events) 1) 7) ∧
    ∃ events, ∃ mediator : TabGridMediator Nat Nat, Runs (TabGridMediator.step some)
      (fun _ _ => True) (init savedThumbnail) events mediator ∧
      ∃ more later, Runs (TabGridMediator.step some) (fun _ input => input.isPreload = false)
        mediator.clearPreloadedSnapshots more later ∧ later.completions = [] ∧
        later.appearanceCache 1 = some 7 := by
  have replaced : Runs (TabGridMediator.step some) (fun _ _ => True) (init savedThumbnail) _ _ :=
    Runs.replay [.changeList [1] 0, .preloadSnapshots 4, .setImage (some 8) 1 [], .runTask,
      .runTask, .runReply] .start (Option.eq_some_of_isSome (by decide))
  have preloading : Runs (TabGridMediator.step some) (fun _ _ => True) (init savedThumbnail) _ _ :=
    Runs.replay [.changeList [1] 0, .preloadSnapshots 4] .start
      (Option.eq_some_of_isSome (by decide))
  refine ⟨⟨_, _, replaced, by decide, by decide, by decide, by decide, by decide, ?_⟩,
    _, _, preloading, ?_⟩
  · rintro ⟨written, present, shown⟩
    obtain rfl : 8 = written := Option.some.inj ((by decide : some 8 = _).trans present)
    grind
  · exact ⟨_, _, Runs.replay [.runTask, .runReply] .start (Option.eq_some_of_isSome (by decide)),
      by decide, by decide⟩

end TabGridMediator

end ChromiumIos
