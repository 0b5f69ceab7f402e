import ChromiumIos.Net.HttpProtocolHandlerProxy

/-!
# What the client sees of the proxied events

The proxy delivers the events in the order in which they were posted, stops as soon as it
is paused and for good when it is invalidated.  A queued block stays in the queue until its
callback returns, so this holds as long as the client does not resume the proxy in there.
-/

namespace ChromiumIos.HttpProtocolHandlerProxy

open Lib

variable {Payload : Type}

/-! ## What the client should see -/

/-- What a log says: the events posted before the proxy was invalidated, the events delivered,
and whether they were delivered while the proxy was neither paused nor invalidated. -/
structure Account (Payload : Type) where
  posts : List (ProxiedEvent Payload) := []
  deliveries : List (ProxiedEvent Payload) := []
  paused : Bool := false
  invalidated : Bool := false
  deliveredWhenOpen : Bool := true

def Account.record (account : Account Payload) : ProxyEvent Payload → Account Payload
  | .posted event =>
    if account.invalidated then account
    else { account with posts := account.posts ++ [event] }
  | .delivered event =>
    { account with
      deliveries := account.deliveries ++ [event]
      deliveredWhenOpen :=
        account.deliveredWhenOpen && !account.paused && !account.invalidated }
  | .paused => { account with paused := true }
  | .resumed => { account with paused := false }
  | .invalidated => { account with invalidated := true }

def account (log : List (ProxyEvent Payload)) : Account Payload := log.foldl Account.record {}

/-- Nothing happens in the client thread, nor is anything left to be done there. -/
def AtRest (proxy : HttpProtocolHandlerProxy Payload) : Prop :=
  proxy.callbacks = [] ∧ proxy.posted = []

/-- The events posted before the proxy was invalidated are delivered in order, each once and
only while the proxy is neither paused nor invalidated; at rest all of them have been. -/
structure DeliversInOrder (log : List (ProxyEvent Payload))
    (proxy : HttpProtocolHandlerProxy Payload) : Prop where
  inOrder : (account log).deliveries <+: (account log).posts
  whenOpen : (account log).deliveredWhenOpen = true
  complete : (account log).paused = false → (account log).invalidated = false → proxy.AtRest →
    (account log).deliveries = (account log).posts

/-- A queued block is in the queue until its callback returns: the client does not resume the
proxy in that callback, unless it has invalidated it. -/
def ResumesOutside (proxy : HttpProtocolHandlerProxy Payload) : ProxyInput Payload → Prop
  | .resume => proxy.protocol = false ∨ .queued ∉ proxy.callbacks
  | _ => True

/-! ## One step -/

theorem account_concat (log : List (ProxyEvent Payload)) (events : List (ProxyEvent Payload)) :
    account (log ++ events) = events.foldl Account.record (account log) :=
  List.foldl_append

/-- Where the client is in a proxy that is not invalidated: which callback is in progress, what
is in the queue, and which queued events are still to be delivered. -/
inductive Phase : List CallbackInProgress → List (ProxiedEvent Payload) → Bool →
    List (ProxiedEvent Payload) → Prop where
  | idle {queue : List (ProxiedEvent Payload)} {paused : Bool}
      (drained : paused = false → queue = []) : Phase [] queue paused queue
  | performing (paused : Bool) : Phase [.performed] [] paused []
  | draining (event : ProxiedEvent Payload) (rest : List (ProxiedEvent Payload)) (paused : Bool) :
      Phase [.queued] (event :: rest) paused rest

/-- The log agrees with the proxy, and what was posted is delivered, queued or waits. -/
structure Sound (log : List (ProxyEvent Payload)) (proxy : HttpProtocolHandlerProxy Payload) :
    Prop where
  paused : (account log).paused = proxy.paused
  invalidated : (account log).invalidated = !proxy.protocol
  whenOpen : (account log).deliveredWhenOpen = true
  alive : proxy.protocol = true → ∃ queue pending, proxy.queuedBlocks = some queue ∧
    Phase proxy.callbacks queue proxy.paused pending ∧
    (account log).posts = (account log).deliveries ++ (pending ++ proxy.posted)
  gone : proxy.protocol = false →
    proxy.queuedBlocks = none ∧ (account log).deliveries <+: (account log).posts

variable {log : List (ProxyEvent Payload)} {proxy after : HttpProtocolHandlerProxy Payload}
variable {asserts : Bool} {events : List (ProxyEvent Payload)}

theorem Sound.deliversInOrder (sound : Sound log proxy) : DeliversInOrder log proxy where
  inOrder := by
    cases present : proxy.protocol with
    | true =>
      obtain ⟨_, _, _, _, posts⟩ := sound.alive present
      simp [posts]
    | false => exact (sound.gone present).2
  whenOpen := sound.whenOpen
  complete := by
    intro unpaused valid rest
    rw [sound.paused] at unpaused
    rw [sound.invalidated, Bool.not_eq_false'] at valid
    obtain ⟨_, _, _, phase, posts⟩ := sound.alive valid
    rw [rest.1, unpaused] at phase
    cases phase with
    | idle drained =>
      simp [posts, drained rfl, rest.2]

/-- The same for a proxy that is not invalidated. -/
structure Alive (log : List (ProxyEvent Payload)) (proxy : HttpProtocolHandlerProxy Payload)
    (queue pending : List (ProxiedEvent Payload)) : Prop where
  present : proxy.protocol = true
  paused : (account log).paused = proxy.paused
  valid : (account log).invalidated = false
  whenOpen : (account log).deliveredWhenOpen = true
  queued : proxy.queuedBlocks = some queue
  posts : (account log).posts = (account log).deliveries ++ (pending ++ proxy.posted)

variable {pending queue : List (ProxiedEvent Payload)} {input : ProxyInput Payload}

theorem Alive.sound (alive : Alive log proxy queue pending)
    (phase : Phase proxy.callbacks queue proxy.paused pending) : Sound log proxy where
  paused := alive.paused
  invalidated := by rw [alive.valid, alive.present]; rfl
  whenOpen := alive.whenOpen
  alive := fun _ => ⟨queue, pending, alive.queued, phase, alive.posts⟩
  gone := fun absent => by cases alive.present.symm.trans absent

theorem Sound.exists_alive (sound : Sound log proxy) (present : proxy.protocol = true) :
    ∃ queue pending, Alive log proxy queue pending ∧
      Phase proxy.callbacks queue proxy.paused pending := by
  obtain ⟨queue, pending, queued, phase, posts⟩ := sound.alive present
  have valid : (account log).invalidated = false := by
    rw [sound.invalidated, present]
    rfl
  exact ⟨queue, pending, ⟨present, sound.paused, valid, sound.whenOpen, queued, posts⟩, phase⟩

/-- A block that is run delivers the event that is first among those to be delivered. -/
theorem Alive.runBlock {event : ProxiedEvent Payload}
    (alive : Alive log proxy queue (event :: pending)) (unpaused : proxy.paused = false)
    (callback : CallbackInProgress) :
    ∃ after, HttpProtocolHandlerProxy.runBlock event callback proxy = (after, [.delivered event]) ∧
      Alive (log ++ [.delivered event]) after queue pending ∧
      after.callbacks = callback :: proxy.callbacks ∧ after.paused = false := by
  have open_ : (account log).paused = false := alive.paused.trans unpaused
  unfold HttpProtocolHandlerProxy.runBlock
  dsimp only
  rw [if_pos alive.present]
  refine ⟨_, rfl, ⟨alive.present, ?_, ?_, ?_, alive.queued, ?_⟩, rfl, unpaused⟩
  all_goals rw [account_concat]
  · exact alive.paused
  · exact alive.valid
  · simp [Account.record, alive.whenOpen, alive.valid, open_]
  · simp [Account.record, alive.posts]

theorem Alive.continueQueuedBlocks_nil (alive : Alive log proxy [] pending) :
    proxy.continueQueuedBlocks = (proxy, []) := by
  have same : { proxy with queuedBlocks := some [] } = proxy := by
    rw [← alive.queued]
  unfold HttpProtocolHandlerProxy.continueQueuedBlocks
  rw [alive.queued]
  exact congrArg (·, []) same

/-- The loop over the queue ends, or it starts the callback of the first queued block. -/
theorem Alive.continueQueuedBlocks (alive : Alive log proxy queue queue)
    (none : proxy.callbacks = []) :
    Sound (log ++ proxy.continueQueuedBlocks.2) proxy.continueQueuedBlocks.1 := by
  cases queue with
  | nil =>
    rw [alive.continueQueuedBlocks_nil, List.append_nil]
    refine alive.sound ?_
    rw [none]
    exact .idle fun _ => rfl
  | cons event rest =>
    have loop : proxy.continueQueuedBlocks = proxy.runQueuedBlocksLoop (event :: rest) := by
      unfold HttpProtocolHandlerProxy.continueQueuedBlocks
      rw [alive.queued]
    have same : { proxy with queuedBlocks := some (event :: rest) } = proxy := by
      rw [← alive.queued]
    rw [loop, runQueuedBlocksLoop, same, if_pos alive.present]
    split_ifs with paused
    · rw [List.append_nil]
      refine alive.sound ?_
      rw [none, paused]
      exact .idle fun unpaused => by cases unpaused
    · have unpaused : proxy.paused = false := Bool.eq_false_iff.mpr paused
      obtain ⟨after, ran, delivered, callbacks, _⟩ := alive.runBlock unpaused .queued
      rw [ran]
      refine delivered.sound ?_
      rw [callbacks, none]
      exact .draining event rest after.paused

/-! ## Every step -/

theorem checkNotComplete_then {rest : Unit → Checked (Performed Payload)}
    {result : Performed Payload}
    (returned : (proxy.checkNotComplete asserts >>= rest) = some result) :
    rest () = some result :=
  (dcheck_then returned).2

/-- A block of a proxy that is invalidated calls nobody. -/
theorem runBlock_gone (absent : proxy.protocol = false) (event : ProxiedEvent Payload)
    (callback : CallbackInProgress) : proxy.runBlock event callback =
      ({ proxy with requestComplete := proxy.requestComplete || event.completes }, []) := by
  simp [runBlock, absent]

theorem continueQueuedBlocks_gone (emptied : proxy.queuedBlocks = none) :
    proxy.continueQueuedBlocks = (proxy, []) := by
  unfold continueQueuedBlocks
  rw [emptied]

/-- What is no delivery changes nothing for the events of an invalidated proxy. -/
theorem Sound.gone_quiet (sound : Sound log proxy) (absent : proxy.protocol = false)
    (event : ProxyEvent Payload) (quiet : ∀ delivered, event ≠ .delivered delivered)
    (stays : after.protocol = false) (emptied : after.queuedBlocks = none)
    (paused : ((account log).record event).paused = after.paused) :
    Sound (log ++ [event]) after := by
  have invalid : (account log).invalidated = true := by
    rw [sound.invalidated, absent]
    rfl
  obtain ⟨-, inOrder⟩ := sound.gone absent
  have whenOpen := sound.whenOpen
  have recorded : account (log ++ [event]) = (account log).record event := account_concat ..
  constructor
  · rw [recorded, paused]
  · rw [recorded, stays]
    cases event <;> simp [Account.record, invalid]
  · rw [recorded]
    cases event with
    | delivered delivered => exact absurd rfl (quiet delivered)
    | posted => simp [Account.record, invalid, whenOpen]
    | paused | resumed | invalidated => exact whenOpen
  · simp [stays]
  · intro _
    rw [recorded]
    refine ⟨emptied, ?_⟩
    cases event with
    | delivered delivered => exact absurd rfl (quiet delivered)
    | posted => simp [Account.record, invalid, inOrder]
    | paused | resumed | invalidated => exact inOrder

theorem Sound.gone_same (sound : Sound log proxy) (absent : proxy.protocol = false)
    (stays : after.protocol = false) (emptied : after.queuedBlocks = none)
    (paused : after.paused = proxy.paused) : Sound (log ++ []) after := by
  rw [List.append_nil]
  refine ⟨sound.paused.trans paused.symm, ?_, sound.whenOpen, fun present => ?_, fun _ => ?_⟩
  · rw [sound.invalidated, absent, stays]
  · cases present.symm.trans stays
  · exact ⟨emptied, (sound.gone absent).2⟩

theorem Sound.step_gone (sound : Sound log proxy) (absent : proxy.protocol = false)
    (stepped : proxy.step asserts input = some (after, events)) : Sound (log ++ events) after := by
  obtain ⟨emptied, -⟩ := sound.gone absent
  cases input with
  | notify _ =>
    cases stepped
    grind [sound.gone_same]
  | postBlockToClientThread =>
    obtain ⟨event, -, stepped⟩ := bind_eq_some stepped
    grind [Account.record, sound.gone_quiet, sound.paused]
  | performBlockOnClientThread =>
    unfold step at stepped
    dsimp only at stepped
    split at stepped
    · cases stepped
    · have performed := checkNotComplete_then stepped
      grind [runBlock_gone, sound.gone_same]
  | pause =>
    cases stepped
    exact sound.gone_quiet absent _ (fun _ => nofun) absent emptied rfl
  | resume =>
    have resumed := checkNotComplete_then stepped
    obtain ⟨⟨continued, more⟩, drained, resumed⟩ := bind_eq_some resumed
    have continuing := checkNotComplete_then drained
    have nothing : continueQueuedBlocks { proxy with paused := false } = _ :=
      continueQueuedBlocks_gone emptied
    rw [nothing] at continuing
    cases continuing
    cases resumed
    exact sound.gone_quiet absent _ (fun _ => nofun) absent emptied rfl
  | invalidate =>
    cases stepped
    exact sound.gone_quiet absent _ (fun _ => nofun) rfl rfl sound.paused
  | callbackReturns =>
    change proxy.callbackReturns = _ at stepped
    unfold callbackReturns at stepped
    split at stepped
    · cases stepped
    · cases stepped
      grind [sound.gone_same]
    · rw [emptied] at stepped
      cases stepped
      grind [sound.gone_same]

/-- What is recorded of an event that is neither posted nor delivered. -/
theorem Alive.record (paused : Bool) (alive : Alive log proxy queue pending) :
    Alive (log ++ [if paused then .paused else .resumed]) { proxy with paused } queue pending := by
  cases paused with
  | true =>
    refine ⟨alive.present, ?_, ?_, ?_, alive.queued, ?_⟩
    all_goals rw [if_pos rfl, account_concat]
    · rfl
    · exact alive.valid
    · exact alive.whenOpen
    · exact alive.posts
  | false =>
    refine ⟨alive.present, ?_, ?_, ?_, alive.queued, ?_⟩
    all_goals rw [if_neg Bool.false_ne_true, account_concat]
    · rfl
    · exact alive.valid
    · exact alive.whenOpen
    · exact alive.posts

/-- A block that is performed is delivered, or it joins the queue of a paused proxy. -/
theorem Alive.performBlock {rest : List (ProxiedEvent Payload)} {event : ProxiedEvent Payload}
    (alive : Alive log proxy queue queue) (drained : proxy.paused = false → queue = [])
    (none : proxy.callbacks = []) (waits : proxy.posted = event :: rest)
    (performed : performBlockOnClientThread asserts event { proxy with posted := rest } =
      some (after, events)) : Sound (log ++ events) after := by
  have posts := alive.posts
  rw [waits] at posts
  have performed := checkNotComplete_then performed
  split_ifs at performed with paused
  · cases performed
    rw [List.append_nil]
    have queued : Alive log { proxy with
        posted := rest, queuedBlocks := proxy.queuedBlocks.map (· ++ [event]) }
        (queue ++ [event]) (queue ++ [event]) := by
      refine ⟨alive.present, alive.paused, alive.valid, alive.whenOpen, ?_, ?_⟩
      · simp [alive.queued]
      · simp [posts]
    refine queued.sound ?_
    rw [none, paused]
    exact .idle fun unpaused => by cases unpaused
  · have unpaused : proxy.paused = false := Bool.eq_false_iff.mpr paused
    cases drained unpaused
    have next : Alive log { proxy with posted := rest } [] [event] :=
      ⟨alive.present, alive.paused, alive.valid, alive.whenOpen, alive.queued, posts⟩
    obtain ⟨_, ran, delivered, callbacks, _⟩ := next.runBlock unpaused .performed
    rw [ran] at performed
    cases performed
    refine delivered.sound ?_
    rw [callbacks, none]
    exact .performing after.paused

theorem Phase.pause {callbacks : List CallbackInProgress} {paused : Bool}
    (phase : Phase callbacks queue paused pending) : Phase callbacks queue true pending := by
  cases phase with
  | idle => exact .idle nofun
  | performing => exact .performing true
  | draining event => exact .draining event pending true

theorem Phase.cases {callbacks : List CallbackInProgress} {paused : Bool}
    (phase : Phase callbacks queue paused pending) :
    callbacks = [] ∧ queue = pending ∨
      callbacks = [.performed] ∧ queue = [] ∧ pending = [] ∨
      callbacks = [.queued] ∧ ∃ event, queue = event :: pending := by
  cases phase <;> simp

theorem Sound.step_alive (sound : Sound log proxy) (present : proxy.protocol = true)
    (happens : proxy.CanHappen input) (outside : proxy.ResumesOutside input)
    (stepped : proxy.step asserts input = some (after, events)) : Sound (log ++ events) after := by
  obtain ⟨queue, pending, alive, phase⟩ := sound.exists_alive present
  cases input with
  | notify _ =>
    cases stepped
    rw [List.append_nil]
    exact Alive.sound ⟨alive.present, alive.paused, alive.valid, alive.whenOpen, alive.queued,
      alive.posts⟩ phase
  | postBlockToClientThread =>
    obtain ⟨event, -, stepped⟩ := bind_eq_some stepped
    cases stepped
    have recorded : account (log ++ [.posted event]) =
        { account log with posts := (account log).posts ++ [event] } := by
      rw [account_concat]
      simp [Account.record, alive.valid]
    refine Alive.sound ⟨alive.present, ?_, ?_, ?_, alive.queued, ?_⟩ phase
    all_goals rw [recorded]
    · exact alive.paused
    · exact alive.valid
    · exact alive.whenOpen
    · simp [alive.posts]
  | performBlockOnClientThread =>
    have none : proxy.callbacks = [] := happens.2
    rw [none] at phase
    cases phase
    grind [step, alive.performBlock]
  | pause =>
    cases stepped
    exact (alive.record true).sound phase.pause
  | resume =>
    have resumed := checkNotComplete_then stepped
    obtain ⟨⟨continued, more⟩, drained, resumed⟩ := bind_eq_some resumed
    have continuing := Option.some.inj (checkNotComplete_then drained)
    cases resumed
    have resumes := alive.record false
    have split : log ++ .resumed :: more = (log ++ [.resumed]) ++ more := by
      rw [List.append_assoc]
      rfl
    rw [split]
    rcases phase.cases with ⟨none, rfl⟩ | ⟨performing, rfl, rfl⟩ | ⟨draining, _⟩
    · have sound := resumes.continueQueuedBlocks none
      rwa [continuing] at sound
    · rw [resumes.continueQueuedBlocks_nil] at continuing
      cases continuing
      rw [List.append_nil]
      refine resumes.sound ?_
      simpa [performing] using .performing false
    · rcases outside with absent | outside <;> grind
  | invalidate =>
    cases stepped
    refine ⟨?_, ?_, ?_, nofun, fun _ => ⟨rfl, ?_⟩⟩
    all_goals rw [account_concat]
    · exact alive.paused
    · rfl
    · exact alive.whenOpen
    · grind [Account.record, alive.posts]
  | callbackReturns =>
    change proxy.callbackReturns = _ at stepped
    unfold callbackReturns at stepped
    rcases phase.cases with ⟨none, rfl⟩ | ⟨performing, rfl, rfl⟩ | ⟨draining, event, rfl⟩
    · exact absurd none happens
    · rw [performing] at stepped
      cases stepped
      rw [List.append_nil]
      exact Alive.sound ⟨alive.present, alive.paused, alive.valid, alive.whenOpen, alive.queued,
        alive.posts⟩ (.idle fun _ => rfl)
    · rw [draining, alive.queued] at stepped
      have continuing := Option.some.inj stepped
      have returned : Alive log { proxy with queuedBlocks := some pending, callbacks := [] }
          pending pending :=
        ⟨alive.present, alive.paused, alive.valid, alive.whenOpen, rfl, alive.posts⟩
      simpa [continuing] using returned.continueQueuedBlocks

/-! ## Runs -/

theorem sound_initial : Sound [] ({} : HttpProtocolHandlerProxy Payload) :=
  Alive.sound ⟨rfl, rfl, rfl, rfl, rfl, rfl⟩ (.idle fun _ => rfl)

theorem Sound.step (sound : Sound log proxy) (happens : proxy.CanHappen input)
    (outside : proxy.ResumesOutside input)
    (stepped : proxy.step asserts input = some (after, events)) : Sound (log ++ events) after := by
  grind [sound.step_alive, sound.step_gone]

/--
In every run in which the client resumes the proxy only outside the callbacks of
queued blocks, or once it is invalidated, the events reach the client in order,
each once and only while the proxy is open, and at rest all of them have.
-/
theorem run_deliversInOrder (asserts : Bool)
    (run : Runs (step asserts) (fun proxy input => proxy.CanHappen input ∧
      proxy.ResumesOutside input) ({} : HttpProtocolHandlerProxy Payload) log proxy) :
    DeliversInOrder log proxy := by
  have sound := run.invariant_outputs Sound sound_initial
    fun _ sound accepted stepped => sound.step accepted.1 accepted.2 stepped
  exact sound.deliversInOrder

instance (proxy : HttpProtocolHandlerProxy Nat) (input : ProxyInput Nat) :
    Decidable (proxy.CanHappen input) :=
  match input with
  | .notify _ => inferInstanceAs (Decidable (_ = _))
  | .postBlockToClientThread => inferInstanceAs (Decidable (_ ≠ _))
  | .performBlockOnClientThread => inferInstanceAs (Decidable (_ ∧ _))
  | .callbackReturns => inferInstanceAs (Decidable (_ ≠ _))
  | .pause => isTrue trivial
  | .resume => isTrue trivial
  | .invalidate => isTrue trivial

instance (proxy : HttpProtocolHandlerProxy Nat) (input : ProxyInput Nat) :
    Decidable (proxy.ResumesOutside input) :=
  match input with
  | .resume => inferInstanceAs (Decidable (_ ∨ _))
  | .notify _ => isTrue trivial
  | .postBlockToClientThread => isTrue trivial
  | .performBlockOnClientThread => isTrue trivial
  | .callbackReturns => isTrue trivial
  | .pause => isTrue trivial
  | .invalidate => isTrue trivial

def resumedWithTwo : List (ProxyInput Nat) :=
  [.pause, .notify (.didReceiveResponse 1), .postBlockToClientThread, .notify (.didLoadData 2),
    .postBlockToClientThread, .performBlockOnClientThread, .performBlockOnClientThread, .resume]

/-- The client pauses the proxy in the callback of the response and resumes it later. -/
theorem run_deliversInOrder_paused : ∃ (log : List (ProxyEvent Nat))
    (proxy : HttpProtocolHandlerProxy Nat), DeliversInOrder log proxy ∧ proxy.AtRest ∧
      (account log).deliveries = [.didReceiveResponse 1, .didLoadData 2] := by
  have idle : Runs (step true) (fun proxy input => proxy.CanHappen input ∧
      proxy.ResumesOutside input) ({} : HttpProtocolHandlerProxy Nat) [] {} := .start
  exact ⟨_, _, run_deliversInOrder true (idle.replay
    (resumedWithTwo ++ [.pause, .callbackReturns, .resume, .callbackReturns])
    (Option.eq_some_of_isSome (by decide +kernel))),
    ⟨by decide +kernel, by decide +kernel⟩, by decide +kernel⟩

/-- The client resumes the proxy in the callback of the response and is told of it again. -/
theorem run_deliversTwice : ¬ ∀ (log : List (ProxyEvent Nat))
    (proxy : HttpProtocolHandlerProxy Nat), Runs (step true) CanHappen {} log proxy →
      DeliversInOrder log proxy := by
  intro delivers
  have idle : Runs (step true) CanHappen ({} : HttpProtocolHandlerProxy Nat) [] {} := .start
  have delivered := (delivers _ _ (idle.replay (resumedWithTwo ++ [.resume])
    (Option.eq_some_of_isSome (by decide +kernel)))).inOrder
  revert delivered
  decide +kernel

end ChromiumIos.HttpProtocolHandlerProxy
