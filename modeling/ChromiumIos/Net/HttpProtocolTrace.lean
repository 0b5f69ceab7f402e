import ChromiumIos.Net.HttpProtocolHandler

/-!
# What the client of the protocol handler is told

The client must be told of the response before any data and before the end of
the data, and must not be told anything more once the request has been
redirected, has finished or has failed, or once it has been cancelled.  A
monitor reads the callbacks one by one; a trace it accepts is valid.  Along any
sequence of events the monitor accepts what the core tells its client.
-/

namespace ChromiumIos

open Lib

namespace ClientCallback

def Terminal : ClientCallback → Prop
  | wasRedirectedToRequest _ | didFinishLoading | didFail _ _ => True
  | didCreateNativeRequest | didReceiveAuthChallenge | didReceiveResponse | didLoadData _ => False

def FollowsResponse : ClientCallback → Prop
  | didLoadData _ | didFinishLoading => True
  | didCreateNativeRequest | didReceiveAuthChallenge | wasRedirectedToRequest _
  | didReceiveResponse | didFail _ _ => False

end ClientCallback

namespace ClientEvent

def Ends : ClientEvent → Prop
  | .callback told => told.Terminal
  | .cancel => True

/-- No callback comes after one that ends the request or after a cancellation, and a response
comes before any data and before the end. -/
structure ValidTrace (trace : List ClientEvent) : Prop where
  nothingAfterEnd : ∀ before event after, trace = before ++ event :: after → event.Ends →
    ∀ later ∈ after, later = .cancel
  responseFirst : ∀ before told after, trace = before ++ .callback told :: after →
    told.FollowsResponse → .callback .didReceiveResponse ∈ before

/-! ## The monitor -/

inductive Phase where
  | preResponse
  | postResponse
  | closed
deriving DecidableEq, Repr

def observe : Phase → ClientEvent → Checked Phase
  | _, cancel => some .closed
  | .closed, callback _ => none
  | .preResponse, callback .didReceiveResponse => some .postResponse
  | .preResponse, callback (.didLoadData _) => none
  | .preResponse, callback .didFinishLoading => none
  | .preResponse, callback .didCreateNativeRequest => some .preResponse
  | .preResponse, callback .didReceiveAuthChallenge => some .preResponse
  | .preResponse, callback (.wasRedirectedToRequest _) => some .closed
  | .preResponse, callback (.didFail _ _) => some .closed
  | .postResponse, callback .didReceiveResponse => some .postResponse
  | .postResponse, callback (.didLoadData _) => some .postResponse
  | .postResponse, callback .didFinishLoading => some .closed
  | .postResponse, callback .didCreateNativeRequest => some .postResponse
  | .postResponse, callback .didReceiveAuthChallenge => some .postResponse
  | .postResponse, callback (.wasRedirectedToRequest _) => some .closed
  | .postResponse, callback (.didFail _ _) => some .closed

def phase (trace : List ClientEvent) (first : Phase) : Checked Phase :=
  trace.foldlM observe first

variable {first last : Phase} {trace : List ClientEvent}

theorem phase_append {before after : List ClientEvent} :
    phase (before ++ after) first = some last ↔
      ∃ middle, phase before first = some middle ∧ phase after middle = some last := by
  simp [phase, Option.bind_eq_some_iff]

variable {event : ClientEvent}

theorem phase_cons {after : List ClientEvent} :
    phase (event :: after) first = some last ↔
      ∃ middle, observe first event = some middle ∧ phase after middle = some last :=
  Option.bind_eq_some_iff

theorem observe_ends {next : Phase} (ends : event.Ends)
    (observed : observe first event = some next) : next = .closed := by
  cases event with
  | cancel => exact (Option.some.inj observed).symm
  | callback told =>
    cases told with
    | didCreateNativeRequest | didReceiveAuthChallenge | didReceiveResponse | didLoadData length =>
      exact ends.elim
    | wasRedirectedToRequest request | didFinishLoading | didFail nsErrorCode netErrorCode =>
      cases first <;> simp_all [observe]

/-- After the end, cancellations are all that may follow. -/
theorem phase_closed (observed : phase trace .closed = some last) :
    last = .closed ∧ ∀ event ∈ trace, event = .cancel := by
  induction trace with
  | nil =>
    refine ⟨(Option.some.inj observed).symm, ?_⟩
    intro event inside
    cases inside
  | cons head _ _ =>
    obtain ⟨middle, first, observed⟩ := phase_cons.mp observed
    cases head with
    | callback _ => cases first
    | cancel =>
      cases first
      grind

theorem response_mem_of_phase (observed : phase trace .preResponse = some .postResponse) :
    .callback .didReceiveResponse ∈ trace := by
  induction trace with
  | nil => cases observed
  | cons head _ ih =>
    obtain ⟨middle, first, observed⟩ := phase_cons.mp observed
    cases middle with
    | preResponse => simp [ih, observed]
    | closed => cases (phase_closed observed).1
    | postResponse =>
      cases head with
      | cancel => cases first
      | callback told => cases told <;> simp_all [observe]

/-- A trace that the monitor accepts is valid. -/
theorem validTrace_of_phase (observed : phase trace .preResponse = some last) :
    ValidTrace trace where
  nothingAfterEnd := by
    intro before event after split ends
    rw [split] at observed
    obtain ⟨middle, -, observed⟩ := phase_append.mp observed
    obtain ⟨next, step, observed⟩ := phase_cons.mp observed
    grind [observe_ends, phase_closed]
  responseFirst := by
    intro before told after split follows
    rw [split] at observed
    obtain ⟨middle, reached, observed⟩ := phase_append.mp observed
    obtain ⟨_, step, -⟩ := phase_cons.mp observed
    have responded : middle = .postResponse := by
      cases told with
      | didLoadData length | didFinishLoading => cases middle <;> first | rfl | cases step
      | didCreateNativeRequest | didReceiveAuthChallenge | wasRedirectedToRequest request
      | didReceiveResponse | didFail nsErrorCode netErrorCode => exact follows.elim
    rw [responded] at reached
    exact response_mem_of_phase reached

end ClientEvent

namespace HttpProtocolHandlerCore

open ClientEvent

/-! ## Stopping -/

/-- Nothing of the request is left. -/
structure Stopped (core : HttpProtocolHandlerCore) : Prop where
  client : core.client = true
  netRequest : core.netRequest = false
  streamDelegate : core.streamDelegate = false
  pendingStream : core.pendingStream = false
  chunkedUploader : core.chunkedUploader = false
  reading : core.reading = false

/-- How the parts of a core that was started depend on each other. -/
structure Coherent (core : HttpProtocolHandlerCore) : Prop where
  client : core.client = true
  request : core.netRequest = true → core.request.isSome
  streamDelegate : core.streamDelegate = true → core.netRequest = true ∧ core.bodyStream = true
  pendingStream : core.pendingStream = true → core.streamDelegate = true
  chunkedUploader : core.chunkedUploader = true → core.netRequest = true
  reading : core.reading = true → core.netRequest = true

/-- Besides, the client has not been told of an end while there is a network request, and
knows of the response when a read is pending. -/
structure Sound (phase : Phase) (core : HttpProtocolHandlerCore) : Prop where
  coherent : core.Coherent
  alive : core.netRequest = true → phase ≠ .closed
  reading : core.reading = true → phase = .postResponse

variable {core : HttpProtocolHandlerCore} {phase : Phase}

theorem Stopped.sound (stopped : core.Stopped) (phase : Phase) : Sound phase core where
  coherent :=
    { client := stopped.client
      request := by simp [stopped.netRequest]
      streamDelegate := by simp [stopped.streamDelegate]
      pendingStream := by simp [stopped.pendingStream]
      chunkedUploader := by simp [stopped.chunkedUploader]
      reading := by simp [stopped.reading] }
  alive := by simp [stopped.netRequest]
  reading := by simp [stopped.reading]

theorem stopListeningStream_eq {stream : Bool} (present : stream = true)
    (listening : core.streamDelegate = true) :
    core.stopListeningStream stream =
      some { core with streamDelegate := false, pendingStream := false } := by
  simp [stopListeningStream, present, listening]

theorem stopNetRequest_stops (coherent : core.Coherent) (alive : core.netRequest = true) :
    ∃ after, core.stopNetRequest = some after ∧ after.Stopped := by
  simp only [stopNetRequest, dcheck_of alive]
  cases listening : core.streamDelegate with
  | true =>
    have stream := (coherent.streamDelegate listening).2
    refine ⟨_, stopListeningStream_eq stream rfl, ?_⟩
    exact ⟨coherent.client, rfl, rfl, rfl, rfl, rfl⟩
  | false =>
    refine ⟨_, rfl, coherent.client, rfl, rfl, ?_, rfl, rfl⟩
    simpa [listening] using coherent.pendingStream

/-! ## Reactions -/

/-- The reaction returns, the monitor accepts what the client is told, and the core is sound
afterwards. -/
def Reacts (phase : Phase) (reaction : Reaction) : Prop :=
  ∃ after events last, reaction = some (after, events) ∧
    ClientEvent.phase events phase = some last ∧ Sound last after

theorem Sound.quiet (sound : Sound phase core) : Reacts phase (some (core, [])) :=
  ⟨core, [], phase, rfl, rfl, sound⟩

/-- What the client is told first may be put before a reaction. -/
theorem Reacts.prepend {middle : Phase} {reaction : Reaction} (reacts : Reacts middle reaction)
    {told : List ClientEvent} (observed : ClientEvent.phase told phase = some middle) :
    Reacts phase (reaction.bind fun (after, events) => some (after, told ++ events)) := by
  obtain ⟨after, events, last, rfl, continued, sound⟩ := reacts
  exact ⟨after, told ++ events, last, rfl, phase_append.mpr ⟨middle, observed, continued⟩, sound⟩

theorem stopRequestWithError_reacts (coherent : core.Coherent) (alive : core.netRequest = true)
    (opened : phase ≠ .closed) (nsErrorCode netErrorCode : Int) :
    Reacts phase (core.stopRequestWithError nsErrorCode netErrorCode) := by
  obtain ⟨after, stops, stopped⟩ := stopNetRequest_stops coherent alive
  simp only [stopRequestWithError, dcheck_of alive, stops]
  refine ⟨after, _, .closed, rfl, ?_, stopped.sound _⟩
  cases phase with
  | preResponse | postResponse => rfl
  | closed => exact absurd rfl opened

theorem cancelAfterSSLError_reacts (sound : Sound phase core) :
    Reacts phase core.cancelAfterSSLError := by
  grind [cancelAfterSSLError, stopRequestWithError_reacts, sound.coherent, sound.alive, sound.quiet]

theorem sslErrorCallback_reacts (sound : Sound phase core) (carryOn : Bool) :
    Reacts phase (core.sslErrorCallback carryOn) := by
  simp only [sslErrorCallback]
  split <;> grind [cancelAfterSSLError_reacts, sound.quiet]

/-- The loop only allocates buffers and passes data on. -/
theorem readLoop_spec (core : HttpProtocolHandlerCore) (bytesRead : Int) (reads : List Int) :
    ∃ size events last, core.readLoop bytesRead reads =
        ({ core with readBufferSize := size }, events, last) ∧
      ClientEvent.phase events .postResponse = some .postResponse := by
  induction reads generalizing core bytesRead with
  | nil =>
    simp only [readLoop]
    split
    · exact ⟨_, _, _, rfl, rfl⟩
    · exact ⟨core.readBufferSize, _, _, rfl, rfl⟩
  | cons next _ ih =>
    simp only [readLoop]
    split
    · obtain ⟨size, _, last, looped, observed⟩ :=
        ih (core.allocateReadBuffer bytesRead.toNat) next
      rw [looped]
      exact ⟨size, _, last, rfl, phase_cons.mpr ⟨.postResponse, rfl, observed⟩⟩
    · exact ⟨core.readBufferSize, _, _, rfl, rfl⟩

theorem finishReading_reacts (coherent : core.Coherent) (alive : core.netRequest = true)
    (bytesRead : Int) : Reacts .postResponse (core.finishReading bytesRead) := by
  simp only [finishReading]
  split
  · obtain ⟨after, stops, stopped⟩ := stopNetRequest_stops coherent alive
    rw [stops]
    exact ⟨after, _, .closed, rfl, rfl, stopped.sound _⟩
  · split
    · exact stopRequestWithError_reacts coherent alive (by decide) _ _
    · exact ⟨_, _, .postResponse, rfl, rfl, { coherent with reading := fun _ => alive },
        fun _ => by decide, fun _ => rfl⟩

theorem onReadCompleted_reacts (sound : Sound phase core) {bytesRead : Int}
    (completed : bytesRead ≠ errIoPending)
    (responded : core.netRequest = true → phase = .postResponse) (reads : List Int) :
    Reacts phase (core.onReadCompleted bytesRead reads) := by
  simp only [onReadCompleted, dcheck_of completed]
  split
  · exact sound.quiet
  · next alive =>
      have alive : core.netRequest = true := by simpa using alive
      rw [responded alive]
      obtain ⟨size, _, last, looped, observed⟩ :=
        readLoop_spec { core with reading := false } bytesRead reads
      have coherent : Coherent { core with reading := false, readBufferSize := size } :=
        { sound.coherent with reading := fun reading => by cases reading }
      rw [looped]
      exact (finishReading_reacts coherent alive last).prepend observed

theorem startReading_reacts (sound : Sound phase core) (reads : List Int) :
    Reacts phase (core.startReading reads) := by
  simp only [startReading]
  split
  · exact sound.quiet
  · next alive =>
      have alive : core.netRequest = true := by simpa using alive
      have responded : ClientEvent.phase [.callback .didReceiveResponse] phase =
          some .postResponse := by
        cases same : phase with
        | preResponse | postResponse => rfl
        | closed => exact absurd same (sound.alive alive)
      have told : Sound .postResponse core :=
        ⟨sound.coherent, fun _ => by decide, fun _ => rfl⟩
      have waiting : Reacts .postResponse (some ({ core with reading := true }, [])) :=
        ⟨_, _, .postResponse, rfl, rfl, { sound.coherent with reading := fun _ => alive },
          fun _ => by decide, fun _ => rfl⟩
      cases reads with
      | nil => exact waiting.prepend responded
      | cons _ rest =>
        simp only []
        split
        · exact waiting.prepend responded
        · next completed =>
            split
            · exact (onReadCompleted_reacts told completed (fun _ => rfl) rest).prepend responded
            · exact (stopRequestWithError_reacts sound.coherent alive (by decide) _ _).prepend
                responded

/-- The core once it no longer listens to the stream. -/
theorem Coherent.deaf (coherent : core.Coherent) :
    Coherent { core with streamDelegate := false, pendingStream := false } :=
  { coherent with
    streamDelegate := fun listening => by cases listening
    pendingStream := fun pending => by cases pending }

theorem onReceivedRedirect_reacts (sound : Sound phase core) (alive : core.netRequest = true)
    (newUrl : String) (isValid : Bool) (httpStatusCode : Int) :
    Reacts phase (core.onReceivedRedirect newUrl isValid httpStatusCode) := by
  have coherent := sound.coherent
  obtain ⟨request, found⟩ := Option.isSome_iff_exists.mp (coherent.request alive)
  have ends : ∀ (deaf : HttpProtocolHandlerCore) (told : NSRequest), deaf.client = true →
      deaf.netRequest = true → deaf.streamDelegate = false → deaf.pendingStream = false →
        Reacts phase ({ deaf with request := none }.stopNetRequest.bind fun after =>
          some (after, [.callback (.wasRedirectedToRequest told)])) := by
    intro deaf told started alive notListening notPending
    have stops : stopNetRequest { deaf with request := none } =
        some { deaf with
          request := none, netRequest := false, chunkedUploader := false, reading := false } := by
      simp [stopNetRequest, alive, notListening]
    rw [stops]
    refine ⟨_, _, .closed, rfl, ?_, Stopped.sound ?_ _⟩
    · cases same : phase with
      | preResponse | postResponse => rfl
      | closed => exact absurd same (sound.alive ‹core.netRequest = true›)
    · exact ⟨started, rfl, notListening, notPending, rfl, rfl⟩
  simp only [onReceivedRedirect, found]
  cases isValid with
  | false => exact stopRequestWithError_reacts coherent alive (sound.alive alive) _ _
  | true =>
    change Reacts phase (if core.streamDelegate = true then _ else _)
    split
    · next listening =>
        rw [stopListeningStream_eq (coherent.streamDelegate listening).2 listening]
        exact ends _ _ coherent.client alive rfl rfl
    · next deaf =>
        have notPending : core.pendingStream = false := by
          grind [coherent.pendingStream]
        exact ends core _ coherent.client alive (by simpa using deaf) notPending

theorem onRead_reacts (sound : Sound phase core) (read : StreamRead) :
    Reacts phase ((core.onRead read).map (·.2)) := by
  simp only [onRead]
  split
  · next pending =>
      cases read with
      | unavailable => exact sound.quiet
      | result _ =>
        simp only []
        split
        · have listening := sound.coherent.pendingStream pending
          have alive := (sound.coherent.streamDelegate listening).1
          rw [stopListeningStream_eq rfl listening]
          obtain ⟨after, events, last, stopped, observed, still⟩ :=
            stopRequestWithError_reacts sound.coherent.deaf alive (sound.alive alive)
              nsURLErrorUnknown errUnexpected
          refine ⟨after, events, last, ?_, observed, still⟩
          simp [stopped]
        · exact sound.quiet
  · exact sound.quiet

theorem handleStreamEvent_reacts (sound : Sound phase core)
    (listening : core.streamDelegate = true) (event : StreamEvent) :
    Reacts phase (core.handleStreamEvent event) := by
  have coherent := sound.coherent
  have alive := (coherent.streamDelegate listening).1
  have deaf : Sound phase { core with streamDelegate := false, pendingStream := false } :=
    ⟨coherent.deaf, sound.alive, sound.reading⟩
  have stops : core.stopListeningStream true = _ := stopListeningStream_eq rfl listening
  simp only [handleStreamEvent, dcheck_of listening]
  cases event with
  | errorOccurred =>
    simp only [stops]
    exact stopRequestWithError_reacts coherent.deaf alive (sound.alive alive) _ _
  | endEncountered =>
    simp only [stops]
    change Reacts phase (if core.chunkedUploader = true then _ else _)
    split
    · exact deaf.quiet
    · rw [dcheck_of alive]
      exact ⟨_, _, phase, rfl, rfl, { coherent.deaf with }, sound.alive, sound.reading⟩
  | hasBytesAvailable _ _ uploads =>
    change Reacts phase (if core.chunkedUploader = true then _ else _)
    split
    · have pending : Sound phase { core with pendingStream := true } :=
        ⟨{ coherent with pendingStream := fun _ => listening }, sound.alive, sound.reading⟩
      cases uploads with
      | none => exact pending.quiet
      | some read =>
        obtain ⟨after, events, last, ran, observed, still⟩ := onRead_reacts pending read
        obtain ⟨⟨bytesRead, result⟩, returned, same⟩ := Option.map_eq_some_iff.mp ran
        refine ⟨after, events, last, ?_, observed, still⟩
        grind
    · split
      · exact ⟨_, _, phase, rfl, rfl, { coherent with }, sound.alive, sound.reading⟩
      · grind [stopRequestWithError_reacts, sound.alive, sound.quiet]
  | other => exact sound.quiet

theorem start_reacts (request : NSRequest) (conditions : StartConditions) :
    Reacts .preResponse ((initWithRequest request).start conditions) := by
  simp only [start]
  split
  · exact ⟨_, _, .closed, rfl, rfl, Stopped.sound ⟨rfl, rfl, rfl, rfl, rfl, rfl⟩ _⟩
  · split
    · exact ⟨_, _, .closed, rfl, rfl, Stopped.sound ⟨rfl, rfl, rfl, rfl, rfl, rfl⟩ _⟩
    · refine ⟨_, _, .preResponse, rfl, rfl, ⟨?_, fun _ => by decide, ?_⟩⟩
      · split
        · next stream =>
            exact ⟨rfl, fun _ => rfl, fun _ => ⟨rfl, stream⟩, fun _ => rfl, fun _ => rfl,
              fun _ => rfl⟩
        · exact ⟨rfl, fun _ => rfl, fun listening => (by cases listening),
            fun pending => (by cases pending), fun _ => rfl, fun _ => rfl⟩
      · split <;> exact fun reading => by cases reading

theorem cancel_reacts (sound : Sound phase core) : Reacts phase (core.step .cancel) := by
  simp only [step, cancel]
  split
  · next absent =>
      have absent : core.netRequest = false := by simpa using absent
      have idle : core.reading = false := by
        grind [sound.coherent.reading]
      exact ⟨core, [.cancel], .closed, rfl, rfl, sound.coherent, by simp [absent], by simp [idle]⟩
  · next alive =>
      obtain ⟨after, stops, stopped⟩ :=
        stopNetRequest_stops sound.coherent (by simpa using alive)
      rw [stops]
      exact ⟨after, [.cancel], .closed, rfl, rfl, stopped.sound _⟩

variable {input : Input}

theorem step_reacts (sound : Sound phase core) (accepted : core.Accepts input) :
    Reacts phase (core.step input) := by
  cases input with
  | start _ =>
    exact absurd (sound.coherent.client) (by simp [show core.client = false from accepted])
  | cancel => exact cancel_reacts sound
  | onReceivedRedirect newUrl isValid httpStatusCode =>
    exact onReceivedRedirect_reacts sound accepted newUrl isValid httpStatusCode
  | onAuthRequired =>
    have alive : core.netRequest = true := accepted
    simp only [step, onAuthRequired]
    split
    · refine ⟨core, _, phase, rfl, ?_, sound⟩
      cases same : phase with
      | preResponse | postResponse => rfl
      | closed => exact absurd same (sound.alive alive)
    · exact sound.quiet
  | onCertificateRequested =>
    exact stopRequestWithError_reacts sound.coherent accepted (sound.alive accepted) _ _
  | onSSLCertificateError _ _ =>
    grind [step, onSSLCertificateError, cancelAfterSSLError_reacts, sslErrorCallback_reacts,
      sound.quiet]
  | onResponseStarted _ _ _ =>
    obtain ⟨-, completed⟩ := accepted
    simp only [step, onResponseStarted, dcheck_of completed]
    grind [stopRequestWithError_reacts, startReading_reacts, sound.quiet, sound.coherent,
      sound.alive]
  | onReadCompleted _ _ =>
    obtain ⟨-, completed, pending⟩ := accepted
    grind [step, onReadCompleted_reacts, sound.reading]
  | handleStreamEvent event => exact handleStreamEvent_reacts sound accepted event
  | onRead read => exact onRead_reacts sound read
  | sslErrorCallback carryOn => exact sslErrorCallback_reacts sound carryOn
  | hostStateCallback _ _ =>
    grind [step, hostStateCallback, startReading_reacts, cancelAfterSSLError_reacts]
  | completeAuthentication _ => exact sound.quiet
  | trackerDestroyed =>
    exact ⟨_, _, phase, rfl, rfl, { sound.coherent with }, sound.alive, sound.reading⟩

/-- A core that was not started can only be started. -/
theorem reacts_of_started {request : NSRequest}
    (started : core = initWithRequest request ∧ phase = .preResponse ∨ Sound phase core)
    (accepted : core.Accepts input) : Reacts phase (core.step input) := by
  rcases started with ⟨rfl, rfl⟩ | sound
  · cases input with
    | start conditions => exact start_reacts request conditions
    | onResponseStarted netError certStatusError reads | onReadCompleted bytesRead reads =>
      cases accepted.1
    | cancel | onReceivedRedirect newUrl isValid httpStatusCode | onAuthRequired
    | onCertificateRequested | onSSLCertificateError fatal minorError | handleStreamEvent event
    | onRead read | sslErrorCallback carryOn | hostStateCallback carryOn reads
    | completeAuthentication authOk | trackerDestroyed => cases accepted
  · exact step_reacts sound accepted

/-! ## Every sequence of events -/

abbrev HandlerRun (request : NSRequest) : List ClientEvent → HttpProtocolHandlerCore → Prop :=
  Runs step Accepts (initWithRequest request)

/-- Whatever events come, what the client is told is a valid trace, and no assertion fails. -/
theorem handlerRun_validTrace {request : NSRequest} {trace : List ClientEvent}
    {core : HttpProtocolHandlerCore} (run : HandlerRun request trace core) :
    ValidTrace trace ∧ ∀ input, core.Accepts input →
      ∃ after events, core.step input = some (after, events) ∧ ValidTrace (trace ++ events) := by
  have reached : ∃ phase, ClientEvent.phase trace .preResponse = some phase ∧
      (core = initWithRequest request ∧ phase = .preResponse ∨ Sound phase core) := by
    refine run.invariant_outputs (fun trace core => ∃ phase,
      ClientEvent.phase trace .preResponse = some phase ∧
        (core = initWithRequest request ∧ phase = .preResponse ∨ Sound phase core)) ?_ ?_
    · simp [phase]
    · rintro trace state after input events - ⟨phase, observed, started⟩ accepted stepped
      obtain ⟨_, _, last, same, continued, sound⟩ := reacts_of_started started accepted
      rw [stepped] at same
      cases same
      exact ⟨last, phase_append.mpr ⟨phase, observed, continued⟩, .inr sound⟩
  obtain ⟨phase, observed, started⟩ := reached
  refine ⟨validTrace_of_phase observed, ?_⟩
  intro input accepted
  obtain ⟨after, events, _, stepped, continued, -⟩ := reacts_of_started started accepted
  exact ⟨after, events, stepped,
    validTrace_of_phase (phase_append.mpr ⟨phase, observed, continued⟩)⟩

def postRequest : NSRequest := ⟨"https://a/", "POST", none, true, []⟩

def uploadAndRead : List Input :=
  [.start ⟨true, true, true, false⟩, .handleStreamEvent (.hasBytesAvailable 0 0 none),
    .onRead (.result 3), .handleStreamEvent .endEncountered, .onResponseStarted 0 true [],
    .hostStateCallback true [5], .onReadCompleted 7 [0], .sslErrorCallback false, .cancel]

theorem handlerRun_validTrace_uploadAndRead :
    ∃ trace core, HandlerRun postRequest trace core ∧
      trace = [.callback .didCreateNativeRequest, .callback .didReceiveResponse,
        .callback (.didLoadData 5), .callback (.didLoadData 7), .callback .didFinishLoading,
        .cancel] ∧ ValidTrace trace := by
  have run : HandlerRun postRequest _ _ :=
    Runs.replay uploadAndRead .start (Option.eq_some_of_isSome (by decide))
  exact ⟨_, _, run, by decide, (handlerRun_validTrace run).1⟩

end HttpProtocolHandlerCore

end ChromiumIos
