import ChromiumIos.Navigation.WKNavigationEffects

/-!
# The cached history of a detached manager

A detached manager has a current index that is -1 or inside its cached items.
Only detaching writes both; every other operation leaves the cache alone, writes
to a cached item, or returns to the attached state.
-/

namespace ChromiumIos.WKNavigationManager

open Lib

variable {env : NavigationEnvironment} {codec : SessionCodec} {baseUrl : String}
variable {manager after : WKNavigationManager}

def CacheInRange (manager : WKNavigationManager) : Prop :=
  manager.attachedToWebView = false →
    -1 ≤ manager.cachedCurrentItemIndex ∧
      manager.cachedCurrentItemIndex < manager.cachedItems.length

theorem CacheInRange.of_attached (attached : manager.attachedToWebView = true) :
    manager.CacheInRange := by
  simp [CacheInRange, attached]

/-- Operations that do not touch the cache keep it in range. -/
theorem CacheInRange.of_same (inRange : manager.CacheInRange)
    (attached : after.attachedToWebView = manager.attachedToWebView)
    (current : after.cachedCurrentItemIndex = manager.cachedCurrentItemIndex)
    (length : after.cachedItems.length = manager.cachedItems.length) : after.CacheInRange := by
  simp only [CacheInRange]
  rw [attached, current, length]
  exact inRange

theorem CacheInRange.stable : Stable CacheInRange where
  same := fun inRange same => inRange.of_same same.attached same.cachedIndex same.cachedLength
  discards := fun inRange => inRange.of_same rfl rfl rfl
  covers := fun inRange _ => inRange.of_same rfl rfl rfl
  commits := fun inRange => inRange.of_same rfl rfl rfl
  starts := fun inRange => inRange.of_same rfl rfl rfl
  defers := fun inRange => inRange.of_same rfl rfl rfl
  detaches := fun _ lower upper _ => ⟨lower, upper⟩
  attaches := fun _ => .of_attached rfl

/-- In every reachable state the cache of a detached manager is in range. -/
theorem Reachable.cacheInRange (reachable : Reachable env codec baseUrl manager) :
    manager.CacheInRange := by
  obtain ⟨operations, ran⟩ := reachable
  refine Keeps.forM (keeps_perform CacheInRange.stable ?_ ?_) operations (.of_attached rfl) ran
  · simp [CacheInRange]
  · simp [CacheInRange]

end ChromiumIos.WKNavigationManager
