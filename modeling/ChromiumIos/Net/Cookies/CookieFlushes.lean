import ChromiumIos.Net.Cookies.CookieStoreIOS

/-!
# Flushes of the cookie store

A notification of the system schedules a flush.  The flush asks for a copy of the
cookies and fills the monster from it when it comes back.  The closure of a
flush is cancelled by any copy that comes back, so a notification between the two
may leave the monster behind; `Careful` says which steps do not.
-/

namespace ChromiumIos

open Lib

/-- What a cookie store knows of its flushes. -/
structure Flushing (Attributes : Type) where
  closure : Option Nat
  delayed : List Nat
  inFlight : List (Snapshot Attributes)
  filled : Option (Snapshot Attributes)
  notifications : Nat

namespace Flushing

variable {Attributes : Type}

def Scheduled (flushing : Flushing Attributes) : Prop :=
  ∃ closure ∈ flushing.delayed, flushing.closure = some closure

/-- The monster was last filled from a copy made after the last notification, if there was one. -/
def Fresh (flushing : Flushing Attributes) : Prop :=
  flushing.notifications = 0 ∨
    ∃ snapshot ∈ flushing.filled, snapshot.notifications = flushing.notifications

instance (flushing : Flushing Attributes) : Decidable flushing.Scheduled :=
  inferInstanceAs (Decidable (∃ _ ∈ _, _))

instance (flushing : Flushing Attributes) : Decidable flushing.Fresh :=
  inferInstanceAs (Decidable (_ ∨ ∃ _ ∈ _, _))

def UpToDate (flushing : Flushing Attributes) : Prop :=
  ¬ flushing.Scheduled → flushing.inFlight = [] → flushing.Fresh

/-- A closure that is not cancelled is that of a flush to come. -/
structure Tracked (flushing : Flushing Attributes) : Prop where
  closure : ∀ {closure}, flushing.closure = some closure →
    flushing.Scheduled ∨ flushing.inFlight ≠ []
  past : ∀ snapshot ∈ flushing.inFlight, snapshot.notifications ≤ flushing.notifications

/-! ## Moves -/

section Moves

variable {flushing : Flushing Attributes} {closure : Nat} {snapshot : Snapshot Attributes}
variable {delayed : List Nat} {rest : List (Snapshot Attributes)}

def notify (flushing : Flushing Attributes) (next : Nat) : Flushing Attributes :=
  if flushing.closure.isSome then { flushing with notifications := flushing.notifications + 1 }
  else
    { flushing with
      notifications := flushing.notifications + 1
      closure := some next
      delayed := flushing.delayed ++ [next] }

def start (flushing : Flushing Attributes) (systemCookies : SystemCookies Attributes) :
    Flushing Attributes :=
  { flushing with
    inFlight := flushing.inFlight ++ [⟨systemCookies, flushing.notifications⟩] }

def cancel (flushing : Flushing Attributes) : Flushing Attributes :=
  { flushing with closure := none }

def withDelayed (flushing : Flushing Attributes) (delayed : List Nat) : Flushing Attributes :=
  { flushing with delayed := delayed }

def write (flushing : Flushing Attributes) (snapshot : Snapshot Attributes)
    (rest : List (Snapshot Attributes)) : Flushing Attributes :=
  { flushing with inFlight := rest, filled := some snapshot, closure := none }

theorem not_scheduled_cancel : ¬ flushing.cancel.Scheduled :=
  fun ⟨_, _, isSet⟩ => by cases isSet

theorem Tracked.notify (tracked : flushing.Tracked) (next : Nat) :
    (flushing.notify next).Tracked ∧ (flushing.notify next).UpToDate := by
  unfold Flushing.notify
  split
  case isTrue isSet =>
    obtain ⟨closure, isSet⟩ := Option.isSome_iff_exists.mp isSet
    refine ⟨⟨fun _ => tracked.closure isSet, ?_⟩, ?_⟩
    · exact fun snapshot mem => Nat.le_succ_of_le (tracked.past snapshot mem)
    · rintro notScheduled noneInFlight
      exact absurd noneInFlight ((tracked.closure isSet).resolve_left notScheduled)
  case isFalse =>
    have scheduled : ∃ closure ∈ flushing.delayed ++ [next], some next = some closure :=
      ⟨next, List.mem_concat_self, rfl⟩
    refine ⟨⟨fun _ => .inl scheduled, ?_⟩, fun notScheduled => absurd scheduled notScheduled⟩
    exact fun snapshot mem => Nat.le_succ_of_le (tracked.past snapshot mem)

theorem Tracked.start (past : ∀ snapshot ∈ flushing.inFlight,
    snapshot.notifications ≤ flushing.notifications) (systemCookies : SystemCookies Attributes) :
    (flushing.start systemCookies).Tracked ∧ (flushing.start systemCookies).UpToDate := by
  have inFlight : (flushing.start systemCookies).inFlight ≠ [] := List.concat_ne_nil _ _
  refine ⟨⟨fun _ => .inr inFlight, fun snapshot mem => ?_⟩, fun _ none => absurd none inFlight⟩
  rcases List.mem_append.mp mem with mem | mem
  · exact past snapshot mem
  · rw [List.mem_singleton.mp mem]
    exact le_rfl

theorem Tracked.cancel (past : ∀ snapshot ∈ flushing.inFlight,
    snapshot.notifications ≤ flushing.notifications) :
    flushing.cancel.Tracked ∧
      (flushing.cancel.UpToDate ↔ flushing.inFlight ≠ [] ∨ flushing.Fresh) := by
  refine ⟨⟨nofun, past⟩, ?_⟩
  grind [UpToDate, Flushing.cancel, Fresh, not_scheduled_cancel]

/-- Another delayed task than that of the scheduled flush does nothing. -/
theorem scheduled_erase (differs : flushing.closure ≠ some closure) :
    (flushing.withDelayed (flushing.delayed.erase closure)).Scheduled ↔ flushing.Scheduled := by
  constructor
  · grind [Scheduled, withDelayed]
  · rintro ⟨other, mem, isSet⟩
    refine ⟨other, (List.mem_erase_of_ne fun same => differs ?_).mpr mem, isSet⟩
    rw [isSet, same]

/-- A copy that is written leaves the monster behind if it is the last one and out of date. -/
theorem Tracked.write (tracked : flushing.Tracked) (front : flushing.inFlight = snapshot :: rest) :
    (flushing.write snapshot rest).Tracked ∧ ((flushing.write snapshot rest).UpToDate ↔
      rest ≠ [] ∨ snapshot.notifications = flushing.notifications) := by
  have past := tracked.past
  rw [front] at past
  refine ⟨⟨nofun, fun other mem => past other (List.mem_cons_of_mem _ mem)⟩,
    ?_⟩
  constructor
  · intro upToDate
    by_cases none : rest = []
    · right
      rcases upToDate not_scheduled_cancel none with never | ⟨filled, isFilled, recent⟩
      · change flushing.notifications = 0 at never
        grind
      · cases isFilled
        exact recent
    · exact .inl none
  · rintro (others | recent) _ none
    · exact absurd none others
    · exact .inr ⟨snapshot, rfl, recent⟩

end Moves

end Flushing

namespace CookieStoreIOS

variable {Url Attributes : Type} [LinearOrder Url]

/-- The copies under way for the monster. -/
def flushesInFlight (replies : List (CookieReply Url Attributes)) : List (Snapshot Attributes) :=
  replies.filterMap fun reply =>
    match reply with
    | .flushStoreFromCookies snapshot => some snapshot
    | .updateCacheForCookies .. => none

variable (state : CookieStoreIOS Url Attributes)

def flushing (state : CookieStoreIOS Url Attributes) : Flushing Attributes where
  closure := state.flushClosure
  delayed := state.delayedTasks
  inFlight := flushesInFlight state.replies
  filled := state.cookieMonster
  notifications := state.notifications

def FlushesCarefully (state : CookieStoreIOS Url Attributes) : Prop :=
  state.systemCookiesAllowed ∨ state.flushing.inFlight ≠ [] ∨ state.flushing.Fresh

/-- The last copy under way is only written if there was no notification since it was made. -/
def WritesCarefully (notifications : Nat) : List (CookieReply Url Attributes) → Prop
  | .flushStoreFromCookies snapshot :: rest =>
    flushesInFlight rest ≠ [] ∨ snapshot.notifications = notifications
  | _ => True

def Careful (state : CookieStoreIOS Url Attributes) : CookieInput Url Attributes → Prop
  | .runReply => WritesCarefully state.notifications state.replies
  | .flushStore => state.FlushesCarefully
  | .runDelayedTask closure => state.flushClosure = some closure → state.FlushesCarefully
  | _ => True

/-! ## Steps -/

section Steps

variable {state after : CookieStoreIOS Url Attributes} {input : CookieInput Url Attributes}
variable {outputs emitted : List (CookieOutput Url Attributes)}
variable {sends : Url → CanonicalCookie Attributes → Bool} {url : Url} {name : String}

omit [LinearOrder Url] in
theorem flushesInFlight_append (replies more : List (CookieReply Url Attributes)) :
    flushesInFlight (replies ++ more) = flushesInFlight replies ++ flushesInFlight more :=
  List.filterMap_append

/-- A copy for the cache does not matter. -/
theorem flushing_updateCacheForCookieFromSystem (state : CookieStoreIOS Url Attributes)
    (runCallbacks : Bool) :
    (state.updateCacheForCookieFromSystem sends url name runCallbacks).flushing =
      state.flushing := by
  unfold flushing updateCacheForCookieFromSystem
  simp [flushesInFlight]

theorem flushing_addCallbackForCookie (state : CookieStoreIOS Url Attributes) :
    (state.addCallbackForCookie sends url name).flushing = state.flushing := by
  grind [flushing, addCallbackForCookie, prefill, flushing_updateCacheForCookieFromSystem]

theorem flushing_foldl (hooks : List (HookKey Url)) (state : CookieStoreIOS Url Attributes) :
    (hooks.foldl (fun state hook => state.updateCacheForCookieFromSystem sends (ofLex hook).1
      (ofLex hook).2 true) state).flushing = state.flushing := by
  induction hooks generalizing state with
  | nil => rfl
  | cons _ _ ih =>
    simp [ih, flushing_updateCacheForCookieFromSystem]

theorem flushing_updateCacheForCookies {runCallbacks : Bool}
    {systemCookies : SystemCookies Attributes}
    (updated : state.updateCacheForCookies url name runCallbacks systemCookies =
      some (after, emitted)) : after.flushing = state.flushing := by
  unfold updateCacheForCookies at updated
  dsimp only at updated
  split at updated
  · split at updated
    · obtain ⟨_, -, updated⟩ := Option.bind_eq_some_iff.mp updated
      obtain ⟨_, -, updated⟩ := Option.bind_eq_some_iff.mp updated
      cases updated
      rfl
    · cases updated
      rfl
  · cases updated
    rfl

theorem flushing_scheduleFlush (state : CookieStoreIOS Url Attributes) :
    state.scheduleFlush.flushing =
      if state.flushClosure.isSome then state.flushing
      else
        { state.flushing with
          closure := some state.nextClosure
          delayed := state.flushing.delayed ++ [state.nextClosure] } := by
  unfold scheduleFlush
  split
  · rfl
  · rfl

theorem flushing_onSystemCookiesChanged (state : CookieStoreIOS Url Attributes) :
    ∃ next, ({ state with notifications := state.notifications + 1 }.onSystemCookiesChanged
      sends).flushing = state.flushing.notify next := by
  let noted := { state with notifications := state.notifications + 1 }
  let posted := noted.hookMap.elements.foldl (fun state hook =>
    state.updateCacheForCookieFromSystem sends (ofLex hook).1 (ofLex hook).2 true) noted
  have unchanged : posted.flushing = noted.flushing := flushing_foldl _ noted
  have closures : posted.flushClosure = state.flushClosure := congrArg Flushing.closure unchanged
  refine ⟨posted.nextClosure, ?_⟩
  change posted.scheduleFlush.flushing = _
  rw [flushing_scheduleFlush, closures, unchanged]
  rfl

theorem tracked_flushStore (past : ∀ snapshot ∈ state.flushing.inFlight,
    snapshot.notifications ≤ state.notifications) :
    state.flushStore.flushing.Tracked ∧
      (state.flushStore.flushing.UpToDate ↔ state.FlushesCarefully) := by
  unfold flushStore FlushesCarefully
  split
  case isTrue allowed =>
    have started : ({ state with replies := state.replies ++
        [.flushStoreFromCookies ⟨state.systemCookies, state.notifications⟩] } :
          CookieStoreIOS Url Attributes).flushing = state.flushing.start state.systemCookies :=
      congrArg (fun inFlight => Flushing.mk _ _ inFlight _ _) (flushesInFlight_append _ _)
    rw [started]
    obtain ⟨tracked, upToDate⟩ := Flushing.Tracked.start past state.systemCookies
    grind
  case isFalse forbidden =>
    obtain ⟨tracked, upToDate⟩ := Flushing.Tracked.cancel past
    exact ⟨tracked, upToDate.trans (or_iff_right forbidden).symm⟩

/-- Every step keeps track of the flushes; just the careful ones leave the monster up to date. -/
theorem tracked_step (tracked : state.flushing.Tracked) (upToDate : state.flushing.UpToDate)
    (stepped : step sends state input = some (after, emitted)) :
    after.flushing.Tracked ∧ (after.flushing.UpToDate ↔ state.Careful input) := by
  have same (unchanged : after.flushing = state.flushing) (careful : state.Careful input) :
      after.flushing.Tracked ∧ (after.flushing.UpToDate ↔ state.Careful input) := by
    grind
  cases input with
  | systemCookiesChange systemCookies | acceptPolicyChange allowed | unsubscribe subscription =>
    cases stepped
    exact same rfl trivial
  | onSystemCookiesChanged =>
    cases stepped
    obtain ⟨next, moved⟩ := flushing_onSystemCookiesChanged state
    rw [moved]
    obtain ⟨trackedAfter, upToDateAfter⟩ := tracked.notify next
    exact ⟨trackedAfter, iff_of_true upToDateAfter trivial⟩
  | runDelayedTask closure =>
    cases stepped
    unfold runDelayedTask Careful
    split
    case isTrue isOwn =>
      let between := { state with delayedTasks := state.delayedTasks.erase closure }
      obtain ⟨trackedAfter, upToDateAfter⟩ :=
        tracked_flushStore (show ∀ snapshot ∈ between.flushing.inFlight,
          snapshot.notifications ≤ between.notifications from tracked.past)
      refine ⟨trackedAfter, upToDateAfter.trans ?_⟩
      exact ⟨fun careful _ => careful, fun careful => careful isOwn⟩
    case isFalse differs =>
      have scheduled := Flushing.scheduled_erase
        (show state.flushing.closure ≠ some closure from differs)
      refine ⟨⟨fun isSet => (tracked.closure isSet).imp_left scheduled.mpr, tracked.past⟩, ?_⟩
      refine iff_of_true (fun notScheduled => ?_) fun isOwn => absurd isOwn differs
      exact upToDate fun isScheduled => notScheduled (scheduled.mpr isScheduled)
  | flushStore =>
    cases stepped
    exact tracked_flushStore tracked.past
  | runReply =>
    unfold step at stepped
    dsimp only at stepped
    split at stepped
    · cases stepped
    case h_2 reply rest waiting =>
      cases reply with
      | flushStoreFromCookies snapshot =>
        cases stepped
        have front : state.flushing.inFlight = snapshot :: flushesInFlight rest := by
          unfold flushing
          rw [waiting]
          rfl
        unfold Careful
        rw [waiting]
        exact tracked.write front
      | updateCacheForCookies _ _ _ _ =>
        refine same ?_ ?_
        · rw [flushing_updateCacheForCookies stepped]
          unfold flushing
          rw [waiting]
          rfl
        · unfold Careful
          rw [waiting]
          trivial
  | addCallbackForCookie _ _ =>
    cases stepped
    exact same (flushing_addCallbackForCookie state) trivial

/-! ## Runs -/

/-- In a run of careful steps the monster is up to date, and the first step that is not careful
leaves it behind. -/
theorem run_upToDate {systemCookies : SystemCookies Attributes} {allowed : Bool}
    (run : Runs (step sends) (fun state input => Accepts state input ∧ Careful state input)
      (initial systemCookies allowed) outputs state) :
    state.flushing.UpToDate ∧ ∀ input after emitted, Accepts state input →
      step sends state input = some (after, emitted) →
        (after.flushing.UpToDate ↔ state.Careful input) := by
  have holds : state.flushing.Tracked ∧ state.flushing.UpToDate := by
    refine run.invariant (fun state => state.flushing.Tracked ∧ state.flushing.UpToDate)
      ⟨⟨nofun, nofun⟩, fun _ _ => .inl rfl⟩ fun holds accepted stepped => ?_
    grind [tracked_step]
  grind [tracked_step]

end Steps

/-! ## Two runs -/

instance : Decidable state.FlushesCarefully :=
  inferInstanceAs (Decidable (_ ∨ _ ≠ [] ∨ _))

instance (notifications : Nat) (replies : List (CookieReply Url Attributes)) :
    Decidable (WritesCarefully notifications replies) :=
  match replies with
  | [] => .isTrue trivial
  | .updateCacheForCookies .. :: _ => .isTrue trivial
  | .flushStoreFromCookies _ :: _ => inferInstanceAs (Decidable (_ ≠ [] ∨ _ = _))

instance (input : CookieInput Url Attributes) : Decidable (Careful state input) :=
  match input with
  | .runReply => inferInstanceAs (Decidable (WritesCarefully _ _))
  | .flushStore => inferInstanceAs (Decidable state.FlushesCarefully)
  | .runDelayedTask _ => inferInstanceAs (Decidable (_ → state.FlushesCarefully))
  | .systemCookiesChange _ | .acceptPolicyChange _ | .onSystemCookiesChanged
  | .addCallbackForCookie .. | .unsubscribe _ => .isTrue trivial

def twoFlushes : List (CookieInput Nat Unit) :=
  [.onSystemCookiesChanged, .runDelayedTask 0, .runReply, .systemCookiesChange (oneCookie "a"),
    .onSystemCookiesChanged, .runDelayedTask 1, .runReply]

/-- A notification that comes after a flush has another one scheduled. -/
theorem run_upToDate_twoFlushes :
    ∃ state, (state.flushing.UpToDate ∧ ∀ input after emitted, Accepts state input →
      step sendsAll state input = some (after, emitted) →
        (after.flushing.UpToDate ↔ state.Careful input)) ∧
      state.cookieMonster.map (fun snapshot => snapshot.systemCookies.cookies) =
        some (oneCookie "a").cookies := by
  have run : Runs (step sendsAll) (fun state input => Accepts state input ∧ Careful state input)
      (initial noCookies true) _ _ :=
    Runs.replay twoFlushes .start (Option.eq_some_of_isSome (by decide))
  exact ⟨_, run_upToDate run, by decide⟩

def lateNotification : List (CookieInput Nat Unit) :=
  [.systemCookiesChange (oneCookie "a"), .onSystemCookiesChanged, .runDelayedTask 0,
    .systemCookiesChange noCookies, .onSystemCookiesChanged, .runReply]

/-- A notification that comes while the copy of a flush is under way is lost: the monster keeps
a cookie that the system no longer has, and nothing is scheduled. -/
theorem run_lateNotification :
    ∃ state, Runs (step sendsAll) Accepts (initial noCookies true) [] state ∧
      ¬ state.flushing.UpToDate ∧ state.replies = [] ∧ state.flushClosure = none ∧
      state.cookieMonster.map (fun snapshot => snapshot.systemCookies.cookies) =
        some (oneCookie "a").cookies ∧ state.systemCookies.cookies = [] := by
  have run : Runs (step sendsAll) Accepts (initial noCookies true) _ _ :=
    Runs.replay lateNotification .start (Option.eq_some_of_isSome (by decide))
  refine ⟨_, run, fun upToDate => ?_, by decide, by decide, by decide, by decide⟩
  exact absurd (upToDate (by decide) (by decide)) (by decide)

end CookieStoreIOS

end ChromiumIos
