import ChromiumIos.WebUI.MojoFacade

/-!
# Watches of a WebUI page are as asked

In every run a callback is called only for the events of its own watch.  The watches are armed
as asked, and their cancellation works, exactly as long as no watch asks for the closing of the
peer and none is cancelled.
-/

namespace ChromiumIos

open Lib

namespace WatchEvent

variable {Callback : Type}

def isSignalOf (call : Nat) (mojoResult : Int) : WatchEvent Callback → Bool
  | .signalled other result => other = call ∧ result = mojoResult
  | _ => false

def isCallOf (call : Nat) (mojoResult : Int) : WatchEvent Callback → Bool
  | .called other _ result => other = call ∧ result = mojoResult
  | _ => false

/-- A call of the script that asks for no closing of the peer and cancels nothing. -/
def harmless : WatchEvent Callback → Bool
  | .watched _ _ signals _ => !signals.peerClosed
  | .cancelled _ _ => false
  | _ => true

end WatchEvent

def WatchScript.isOf (call : Nat) (mojoResult : Int) (script : WatchScript) : Bool :=
  script.callbackId = call ∧ script.mojoResult = mojoResult

namespace WatchingPage

open WatchEvent

variable {Callback : Type} {page after : WatchingPage Callback}
variable {log events : List (WatchEvent Callback)} {input : Input Callback}

/-- A callback is the one of its watch and is called for the events of that watch only, the
watch is armed as asked, cancelling it completes, and nothing calls its callback thereafter. -/
structure WatchesAsAsked (log : List (WatchEvent Callback)) : Prop where
  own : ∀ call mojoResult,
    log.countP (isCallOf call mojoResult) ≤ log.countP (isSignalOf call mojoResult)
  passed : ∀ call callback mojoResult, .called call callback mojoResult ∈ log →
    ∃ signals armed, .watched call callback signals armed ∈ log
  armed : ∀ call callback signals armed, .watched call callback signals armed ∈ log →
    armed = signals.bits
  completes : ∀ call normally, .cancelled call normally ∈ log → normally = true
  silent : ∀ call normally before later, log = before ++ .cancelled call normally :: later →
    ∀ callback mojoResult, .called call callback mojoResult ∉ later

/-- The ids of callbacks are the numbers of the calls of `watch`, on both sides and in the
scripts between them. -/
structure Matched (log : List (WatchEvent Callback)) (page : WatchingPage Callback) : Prop where
  next : page.watchCallbacksHolder.nextCallbackId = page.mojoWatchers.length
  entries : ∀ callbackId entry,
    page.watchCallbacksHolder.callbacks callbackId = some entry →
      entry.call = callbackId ∧ ∃ signals armed,
        .watched entry.call entry.callback signals armed ∈ log
  watchers : ∀ watchId watcher, page.facade.watchers watchId = some watcher →
    watcher.callbackId = watcher.call
  scripts : ∀ call mojoResult, log.countP (isCallOf call mojoResult) +
    page.scripts.countP (WatchScript.isOf call mojoResult) ≤
      log.countP (isSignalOf call mojoResult)
  passed : ∀ call callback mojoResult, .called call callback mojoResult ∈ log →
    ∃ signals armed, .watched call callback signals armed ∈ log
  armed : ∀ call callback signals armed, .watched call callback signals armed ∈ log →
    armed = signalsValue signals
  cancelled : ∀ call normally, .cancelled call normally ∈ log → normally = false

/-! ## The signals -/

/-- The bit of the closing of the peer is never set. -/
theorem signalsValue_eq_bits (signals : WatchSignals) :
    signalsValue signals = signals.bits ↔ signals.peerClosed = false := by
  obtain ⟨readable, writable, peerClosed⟩ := signals
  cases readable <;> cases writable <;> cases peerClosed <;> decide

/-! ## Steps -/

variable {watchId : BitVec 32}

/-- A watcher that is there after a call of `watch` was there or is the one it creates. -/
theorem handleMojoHandleWatch_watchers {facade next : MojoFacade} {call signals callbackId : Nat}
    {handle : Option Int} (created : facade.handleMojoHandleWatch call handle signals callbackId =
      some (next, watchId)) (other : BitVec 32) (watcher : SimpleWatcher)
    (found : next.watchers other = some watcher) :
    facade.watchers other = some watcher ∨
      watcher.callbackId = callbackId ∧ watcher.call = call := by
  unfold MojoFacade.handleMojoHandleWatch at created
  split at created
  · cases created
  · split at created
    · dsimp only at created
      split at created
      · cases created
        grind
      · cases created
        grind
    · cases created

variable (matched : Matched log page)
include matched

theorem watch_matched {nativeHandle : Option Int} {signals : WatchSignals} {callback : Callback}
    (watched : page.watch nativeHandle signals callback = some (after, events)) :
    Matched (log ++ events) after := by
  obtain ⟨next, entries, watchers, scripts, passed, armed, cancelled⟩ := matched
  obtain ⟨⟨facade, watchId⟩, created, returned⟩ := bind_eq_some watched
  cases returned
  refine ⟨?_, fun callbackId entry found => ?_, fun other watcher found => ?_,
    fun call mojoResult => ?_, fun call callback mojoResult mem => ?_,
    fun call callback signals value mem => ?_, fun call normally mem => ?_⟩
  · simp [WatchCallbacksHolder.addWatchCallback, next]
  · change Function.update _ page.watchCallbacksHolder.nextCallbackId _ _ = _ at found
    grind
  · rcases handleMojoHandleWatch_watchers created other watcher found with old | ⟨id, call⟩
    · exact watchers other watcher old
    · rw [id, call]
      exact next
  · simp [isCallOf, isSignalOf, scripts]
  · grind
  · grind
  · grind

/-- Cancelling ends with an exception, after the facade has dropped the watcher. -/
theorem cancel_matched (call : Nat) (watchId : BitVec 32) :
    Matched (log ++ (page.cancel call watchId).2) (page.cancel call watchId).1 := by
  obtain ⟨next, entries, watchers, scripts, passed, armed, cancelled⟩ := matched
  refine ⟨next, fun callbackId entry found => ?_, fun other watcher found => ?_,
    fun call mojoResult => ?_, fun call callback mojoResult mem => ?_,
    fun call callback signals value mem => ?_, fun call normally mem => ?_⟩
  · obtain ⟨own, signals, value, mem⟩ := entries callbackId entry found
    grind
  · change Function.update page.facade.watchers watchId none other = some watcher at found
    grind
  · grind [isCallOf, cancel]
  · grind [cancel]
  · grind [cancel]
  · rcases List.mem_append.mp mem with old | new
    · exact cancelled call normally old
    · cases List.mem_singleton.mp new
      rfl

/-- An event of a watcher sends one script, with the id of the callback of its watch. -/
theorem signal_matched {watcher : SimpleWatcher}
    (found : page.facade.watchers watchId = some watcher) (mojoResult : Int) :
    Matched (log ++ (page.signal watcher mojoResult).2) (page.signal watcher mojoResult).1 := by
  obtain ⟨next, entries, watchers, scripts, passed, armed, cancelled⟩ := matched
  refine ⟨next, fun callbackId entry found => ?_, watchers,
    fun call result => ?_, fun call callback result mem => ?_,
    fun call callback signals value mem => ?_, fun call normally mem => ?_⟩
  · grind [signal]
  · have before := scripts call result
    have same : WatchScript.isOf call result ⟨watcher.callbackId, mojoResult⟩ =
        isSignalOf call result (.signalled watcher.call mojoResult : WatchEvent Callback) := by
      rw [WatchScript.isOf, watchers watchId watcher found]
      rfl
    change (log ++ [_]).countP _ + (page.scripts ++ [_]).countP _ ≤ (log ++ [_]).countP _
    rw [List.countP_append, List.countP_append, List.countP_append, List.countP_singleton,
      List.countP_singleton, List.countP_singleton, same]
    change _ + 0 + _ ≤ _
    omega
  · grind [signal]
  · grind [signal]
  · grind [signal]

/-- A script that reaches the page calls at most the callback with its id. -/
theorem runScript_matched {index : Nat} {script : WatchScript}
    (found : page.scripts[index]? = some script) :
    Matched (log ++ page.callCallback script.callbackId script.mojoResult)
      { page with scripts := page.scripts.eraseIdx index } := by
  obtain ⟨next, entries, watchers, scripts, passed, armed, cancelled⟩ := matched
  obtain ⟨inside, rfl⟩ := List.getElem?_eq_some_iff.mp found
  have taken : ∀ call result, page.scripts.countP (WatchScript.isOf call result) =
      (page.scripts.eraseIdx index).countP (WatchScript.isOf call result) +
        if WatchScript.isOf call result page.scripts[index] then 1 else 0 := by
    simp [← (List.getElem_cons_eraseIdx_perm inside).countP_eq, List.countP_cons]
  unfold callCallback
  split
  · next absent =>
    rw [List.append_nil]
    refine ⟨next, entries, watchers, fun call result => ?_, passed, armed, cancelled⟩
    grind
  · next entry present =>
    obtain ⟨own, signals, value, mem⟩ := entries _ entry present
    refine ⟨next, fun callbackId entry found => ?_, watchers, fun call result => ?_,
      fun call callback result mem' => ?_, fun call callback signals value mem => ?_,
      fun call normally mem => ?_⟩
    · grind
    · have before := scripts call result
      have same : isCallOf call result (.called entry.call entry.callback
          page.scripts[index].mojoResult) = WatchScript.isOf call result page.scripts[index] := by
        rw [WatchScript.isOf, ← own]
        rfl
      grind
    · grind
    · grind
    · grind

theorem step_matched (stepped : page.step input = some (after, events)) :
    Matched (log ++ events) after := by
  cases input with
  | watch _ _ _ =>
    exact watch_matched matched stepped
  | cancel call =>
    unfold step at stepped
    dsimp only at stepped
    grind [cancel_matched]
  | signal watchId _ =>
    unfold step at stepped
    dsimp only at stepped
    grind [signal_matched]
  | runScript index =>
    unfold step at stepped
    dsimp only at stepped
    grind [runScript_matched]

omit matched

/-! ## Runs -/

theorem Matched.initial (lastWatchId : BitVec 32) :
    Matched [] (initial lastWatchId : WatchingPage Callback) :=
  ⟨rfl, (fun _ _ found => by cases found), (fun _ _ found => by cases found),
    fun _ _ => Nat.le_refl 0, fun _ _ _ mem => absurd mem List.not_mem_nil,
    fun _ _ _ _ mem => absurd mem List.not_mem_nil, fun _ _ mem => absurd mem List.not_mem_nil⟩

/-- Watches are as asked in exactly the runs in which no watch asks for the closing of the peer
and no watch is cancelled. -/
theorem run_watchesAsAsked {lastWatchId : BitVec 32}
    (run : Runs step (fun _ _ => True) (initial lastWatchId : WatchingPage Callback) log page) :
    WatchesAsAsked log ↔ ∀ event ∈ log, event.harmless := by
  have matched : Matched log page :=
    run.invariant_outputs Matched (.initial lastWatchId) fun _ matched _ stepped =>
      step_matched matched stepped
  constructor
  · intro asAsked event mem
    cases event with
    | watched _ _ signals _ =>
      have same : signalsValue signals = signals.bits := by
        grind [matched.armed, asAsked.armed]
      rw [harmless, (signalsValue_eq_bits signals).mp same]
      rfl
    | signalled call mojoResult | called call callback mojoResult => rfl
    | cancelled _ _ =>
      grind [asAsked.completes, matched.cancelled]
  · intro quiet
    refine ⟨fun call mojoResult => ?_, matched.passed, fun call callback signals value mem => ?_,
      fun call normally mem => ?_, fun call normally before later split => ?_⟩
    · exact Nat.le_trans (Nat.le_add_right _ _) (matched.scripts call mojoResult)
    · grind [matched.armed call callback signals value mem, harmless, signalsValue_eq_bits]
    · cases quiet _ mem
    · have mem : .cancelled call normally ∈ log := by
        simp [split]
      cases quiet _ mem

/-- Two watches with events that cross each other. -/
theorem run_watchesAsAsked_two : ∃ log : List (WatchEvent String),
    WatchesAsAsked log ∧ log.countP (isCallOf 0 0) = 1 ∧ log.countP (isCallOf 1 3) = 1 := by
  have idle : Runs step (fun _ _ => True) (initial 7 : WatchingPage String) [] (initial 7) :=
    .start
  have asAsked := run_watchesAsAsked (idle.replay
    [.watch (some 1) ⟨true, false, false⟩ "onReadable", .signal 8 0,
      .watch (some 2) ⟨true, true, false⟩ "onWritable", .signal 9 3, .runScript 1, .runScript 0]
    (Option.eq_some_of_isSome (by decide +kernel)))
  exact ⟨_, asAsked.mpr (by decide +kernel), by decide +kernel, by decide +kernel⟩

/-- A watch for the closing of the peer is armed for nothing; after a cancellation, which ends
with an exception, the callback is called for an event that was signalled before. -/
theorem run_watchNotAsAsked : ¬ ∀ (log : List (WatchEvent String)) (page : WatchingPage String),
    Runs step (fun _ _ => True) (initial 0) log page → WatchesAsAsked log := by
  intro asAsked
  have idle : Runs step (fun _ _ => True) (initial 0 : WatchingPage String) [] (initial 0) :=
    .start
  have watched := asAsked _ _ (idle.replay
    [.watch (some 1) ⟨true, false, true⟩ "onReadable", .signal 1 0, .cancel 0, .runScript 0]
    (Option.eq_some_of_isSome (by decide +kernel)))
  have called := watched.silent 0 false [_, _] [_] rfl "onReadable" 0
  exact called List.mem_cons_self

end WatchingPage

end ChromiumIos
