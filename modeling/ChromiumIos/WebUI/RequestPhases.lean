import ChromiumIos.WebUI.URLDataManagerIOSBackend

/-!
# What has become of a job

A job waits for its data, is served from it, or has failed; each phase says which reads of it
were pending and completed and which bytes they returned.
-/

namespace ChromiumIos

variable (job : Nat)

namespace DataEvent

def bytesTo : DataEvent → List UInt8
  | .readReturned other bytes _ | .readCompleted other bytes _ => if other = job then bytes else []
  | _ => []

def isEndOf : DataEvent → Bool
  | .readReturned other _ result | .readCompleted other _ result => other = job ∧ result = 0
  | _ => false

def isPendingOf : DataEvent → Bool
  | .readPending other => other = job
  | _ => false

/-- A read of the job that was pending is completed, with bytes or a failure. -/
def isCompletionOf : DataEvent → Bool
  | .readCompleted other _ _ | .readFailed other => other = job
  | _ => false

def isAnswerTo (requestId : Nat) : DataEvent → Bool
  | .answered other _ => other = requestId
  | _ => false

def isReadOf : DataEvent → Bool
  | .readPending other | .readReturned other _ _ | .readCompleted other _ _ | .readFailed other =>
    other = job
  | _ => false

end DataEvent

open DataEvent

def bytesRead (log : List DataEvent) : List UInt8 :=
  log.flatMap (bytesTo job)

namespace URLRequestChromeJob

variable {number : Nat} {job after : URLRequestChromeJob} {log events : List DataEvent}

/-- What the reads of a job have returned so far. -/
structure ReadsSoFar (number : Nat) (log : List DataEvent) (pending completed : Nat)
    (bytes : List UInt8) : Prop where
  pending : log.countP (isPendingOf number) = pending
  completed : log.countP (isCompletionOf number) = completed
  bytes : bytesRead number log = bytes

/-- The phase of the job with the given number. -/
inductive Phase (number : Nat) (log : List DataEvent) (job : URLRequestChromeJob) : Prop where
  | waiting (data : job.data = none) (pendingBuf : job.pendingBuf.isSome = job.reading)
      (positive : ∀ bufSize ∈ job.pendingBuf, 0 < bufSize) (offset : job.dataOffset = 0)
      (reads : ReadsSoFar number log (if job.reading then 1 else 0) 0 [])
      (noEnd : log.countP (isEndOf number) = 0)
  | serving (requestId : Nat) (bytes : List UInt8) (pending : Nat)
      (requested : .requested requestId number ∈ log)
      (answered : .answered requestId (some bytes) ∈ log)
      (data : job.data = some bytes) (short : bytes.length < 2 ^ 31)
      (pendingBuf : job.pendingBuf = none) (reading : job.reading = false)
      (offset : job.dataOffset ≤ bytes.length)
      (reads : ReadsSoFar number log pending pending (bytes.take job.dataOffset))
      (ends : log.countP (isEndOf number) ≠ 0 → job.dataOffset = bytes.length)
  | failed (data : job.data = none) (pendingBuf : job.pendingBuf.isSome = true)
      (reading : job.reading = false) (pending : Nat)
      (reads : ReadsSoFar number log pending pending [])
      (noEnd : log.countP (isEndOf number) = 0)

theorem bytesRead_append (number : Nat) (log events : List DataEvent) :
    bytesRead number (log ++ events) = bytesRead number log ++ bytesRead number events :=
  List.flatMap_append

variable {event : DataEvent}

/-- Events that are not about the reads of a job leave its phase. -/
theorem not_isReadOf (other : event.isReadOf number = false) :
    event.isPendingOf number = false ∧ event.isCompletionOf number = false ∧
      event.bytesTo number = [] ∧ event.isEndOf number = false := by
  cases event with
  | readPending | readReturned | readCompleted | readFailed =>
    have other := of_decide_eq_false other
    simp [isPendingOf, isCompletionOf, bytesTo, isEndOf, other]
  | requested | startError | headersComplete | answered | arrived | killed =>
    exact ⟨rfl, rfl, rfl, rfl⟩

variable {bufSize : Int} {bytes : List UInt8}

theorem ReadsSoFar.append {pending completed : Nat}
    (reads : ReadsSoFar number log pending completed bytes)
    (others : ∀ event ∈ events, event.isReadOf number = false) :
    ReadsSoFar number (log ++ events) pending completed bytes := by
  have none : bytesRead number events = [] :=
    List.flatMap_eq_nil_iff.mpr fun event mem => (not_isReadOf (others event mem)).2.2.1
  refine ⟨?_, ?_, ?_⟩
  · rw [List.countP_append, reads.pending, List.countP_eq_zero.mpr]
    · rfl
    · grind [not_isReadOf]
  · rw [List.countP_append, reads.completed, List.countP_eq_zero.mpr]
    · rfl
    · exact fun event mem => by simp [(not_isReadOf (others event mem)).2.1]
  · rw [bytesRead_append, reads.bytes, none, List.append_nil]

theorem ends_append (others : ∀ event ∈ events, event.isReadOf number = false) :
    (log ++ events).countP (isEndOf number) = log.countP (isEndOf number) := by
  have none : events.countP (isEndOf number) = 0 :=
    List.countP_eq_zero.mpr fun event mem => by simp [(not_isReadOf (others event mem)).2.2.2]
  rw [List.countP_append, none, Nat.add_zero]

/-- The fields of a job that its reads and answers are about. -/
structure SameReads (job after : URLRequestChromeJob) : Prop where
  data : after.data = job.data
  dataOffset : after.dataOffset = job.dataOffset
  pendingBuf : after.pendingBuf = job.pendingBuf
  reading : after.reading = job.reading

theorem Phase.append (phase : Phase number log job) (same : SameReads job after)
    (others : ∀ event ∈ events, event.isReadOf number = false) :
    Phase number (log ++ events) after := by
  obtain ⟨data, dataOffset, pendingBuf, reading⟩ := same
  cases phase with
  | waiting data' pendingBuf' positive offset reads noEnd =>
    refine .waiting (data.trans data') ?_ ?_ (dataOffset.trans offset) ?_
      ((ends_append others).trans noEnd)
    · rw [pendingBuf, reading, pendingBuf']
    · rw [pendingBuf]
      exact positive
    · rw [reading]
      exact reads.append others
  | serving requestId bytes pending requested answered data' short pendingBuf' reading' offset
      reads ends =>
    refine .serving requestId bytes pending (List.mem_append_left _ requested)
      (List.mem_append_left _ answered) (data.trans data') short (pendingBuf.trans pendingBuf')
      (reading.trans reading') ?_ ?_ ?_
    · rw [dataOffset]
      exact offset
    · rw [dataOffset]
      exact reads.append others
    · rw [dataOffset, ends_append others]
      exact ends
  | failed data' pendingBuf' reading' pending reads noEnd =>
    refine .failed (data.trans data') ?_ (reading.trans reading') pending (reads.append others)
      ((ends_append others).trans noEnd)
    rw [pendingBuf]
    exact pendingBuf'

/-! ## Reads -/

/-- A read copies as much of the rest as fits; it copies nothing only at the end. -/
theorem completeRead_spec (job : URLRequestChromeJob) {data : List UInt8}
    (short : data.length < 2 ^ 31) (inside : job.dataOffset ≤ data.length)
    (positive : 0 < bufSize) :
    ∃ count : Nat, job.dataOffset + count ≤ data.length ∧
      (count = 0 → job.dataOffset = data.length) ∧
      job.completeRead data bufSize =
        ({ job with dataOffset := job.dataOffset + count },
          (data.drop job.dataOffset).take count, (count : Int)) := by
  have rest : ((data.length : Int) - job.dataOffset).bmod (2 ^ 32) =
      (data.length : Int) - job.dataOffset := by
    refine Int.bmod_eq_of_le ?_ ?_
    · omega
    · omega
  unfold completeRead
  rw [rest]
  dsimp only
  by_cases longer : bufSize > (data.length : Int) - job.dataOffset
  · rw [if_pos longer]
    by_cases atEnd : (data.length : Int) - job.dataOffset > 0
    · grind
    · rw [if_neg atEnd]
      refine ⟨0, by omega, by omega, ?_⟩
      rw [List.take_zero, Nat.add_zero, show (data.length : Int) - job.dataOffset = 0 by omega]
      rfl
  · grind

/-- One more read. -/
theorem ReadsSoFar.concat {pending completed : Nat}
    (reads : ReadsSoFar number log pending completed bytes) (event : DataEvent) :
    ReadsSoFar number (log ++ [event])
      (pending + if event.isPendingOf number then 1 else 0)
      (completed + if event.isCompletionOf number then 1 else 0)
      (bytes ++ event.bytesTo number) := by
  refine ⟨?_, ?_, ?_⟩
  · simp [reads.pending]
  · simp [reads.completed]
  · simpa [bytesRead] using reads.bytes

/-- Data arrives at a job that waits: its pending read, if there is one, is completed. -/
theorem dataAvailable_serving {requestId : Nat} (phase : Phase number log job)
    (data : job.data = none) (waits : job.pendingBuf.isSome = job.reading)
    (requested : .requested requestId number ∈ log)
    (answered : .answered requestId (some bytes) ∈ log) (short : bytes.length < 2 ^ 31) :
    Phase number (log ++ (job.dataAvailable number (some bytes)).2)
      (job.dataAvailable number (some bytes)).1 := by
  cases phase with
  | serving _ _ _ _ _ there =>
    rw [data] at there
    cases there
  | failed _ kept reading =>
    rw [kept, reading] at waits
    cases waits
  | waiting _ _ positive offset reads noEnd =>
    have start : job.dataOffset ≤ bytes.length := by
      rw [offset]
      exact Nat.zero_le _
    have reads : ReadsSoFar number log (if job.reading then 1 else 0) 0
        (bytes.take job.dataOffset) := by
      rw [offset]
      exact reads
    cases pendingBuf : job.pendingBuf with
    | none =>
      rw [pendingBuf] at waits
      rw [← waits] at reads
      have idle : job.dataAvailable number (some bytes) =
          ({ job with data := some bytes }, []) := by
        simp only [dataAvailable, pendingBuf]
      rw [idle, List.append_nil]
      refine .serving requestId bytes 0 requested answered rfl short pendingBuf waits.symm
        start reads ?_
      rw [noEnd]
      exact fun ended => absurd rfl ended
    | some bufSize =>
      rw [pendingBuf] at waits
      rw [← waits] at reads
      obtain ⟨count, inside, atEnd, copied⟩ := completeRead_spec
        { job with data := some bytes } short start (positive bufSize pendingBuf)
      simp only [pendingBuf] at copied
      have completed : job.dataAvailable number (some bytes) =
          ({ job with
              data := some bytes
              dataOffset := job.dataOffset + count
              pendingBuf := none
              reading := false },
            [.readCompleted number ((bytes.drop job.dataOffset).take count) count]) := by
        simp only [dataAvailable, pendingBuf, copied]
      rw [completed]
      refine .serving requestId bytes 1 (List.mem_append_left _ requested)
        (List.mem_append_left _ answered) rfl short rfl rfl inside ?_ ?_
      · have more := reads.concat
          (.readCompleted number ((bytes.drop job.dataOffset).take count) count)
        simpa [isPendingOf, isCompletionOf, bytesTo, List.take_add] using more
      · rw [List.countP_append, noEnd, List.countP_singleton]
        intro ended
        have zero : count = 0 := by simpa [isEndOf] using ended
        simpa [zero] using atEnd zero

/-- A failure arrives at a job with a pending read, which is completed with it. -/
theorem dataAvailable_failed (phase : Phase number log job) (data : job.data = none)
    (waits : job.pendingBuf.isSome = job.reading) (pendingBuf : job.pendingBuf.isSome = true) :
    Phase number (log ++ (job.dataAvailable number none).2) (job.dataAvailable number none).1 := by
  have reading : job.reading = true := waits.symm.trans pendingBuf
  cases phase with
  | serving _ _ _ _ _ there =>
    rw [data] at there
    cases there
  | failed _ _ stopped =>
    rw [reading] at stopped
    cases stopped
  | waiting _ _ _ _ reads noEnd =>
    rw [reading] at reads
    refine .failed data pendingBuf rfl 1 ?_ ?_
    · have more := reads.concat (.readFailed number)
      simpa [isPendingOf, isCompletionOf, bytesTo, dataAvailable] using more
    · rw [List.countP_append, noEnd]
      rfl

/-- A read of a job that is not reading, into a buffer that is not empty. -/
theorem readRawData_phase (phase : Phase number log job) (idle : job.reading = false)
    (positive : 0 < bufSize) (read : job.readRawData number bufSize = some (after, events)) :
    Phase number (log ++ events) after := by
  unfold readRawData at read
  cases phase with
  | waiting data _ _ offset reads noEnd =>
    rw [data] at read
    dsimp only at read
    split at read
    · cases read
      rw [idle] at reads
      refine .waiting rfl rfl ?_ offset ?_ ?_
      · intro size kept
        cases kept
        exact positive
      · have more := reads.concat (.readPending number)
        simpa [isPendingOf, isCompletionOf, bytesTo] using more
      · rw [List.countP_append, noEnd]
        rfl
    · cases read
  | serving requestId bytes pending requested answered data short pendingBuf reading offset reads
      ends =>
    obtain ⟨count, inside, atEnd, copied⟩ := completeRead_spec job short offset positive
    rw [data] at read
    dsimp only at read
    rw [copied] at read
    cases read
    refine .serving requestId bytes pending (List.mem_append_left _ requested)
      (List.mem_append_left _ answered) data short pendingBuf reading inside ?_ ?_
    · have more := reads.concat
        (.readReturned number ((bytes.drop job.dataOffset).take count) count)
      simpa [isPendingOf, isCompletionOf, bytesTo, List.take_add] using more
    · rw [List.countP_append, List.countP_singleton]
      intro ended
      by_cases zero : count = 0
      · simp [zero, atEnd]
      · have before : log.countP (isEndOf number) ≠ 0 := by simpa [isEndOf, zero] using ended
        omega
  | failed _ _ =>
    grind

/-! ## What reads leave alone -/

structure ReadsOf (number : Nat) (events : List DataEvent) : Prop where
  all : ∀ event ∈ events, event.isReadOf number = true

theorem ReadsOf.others (reads : ReadsOf number events) {other : Nat} (different : other ≠ number) :
    ∀ event ∈ events, event.isReadOf other = false := by
  intro event mem
  have own := reads.all event mem
  cases event with
  | readPending | readReturned | readCompleted | readFailed =>
    grind [isReadOf]
  | requested | startError | headersComplete | answered | arrived | killed => cases own

theorem ReadsOf.notMem (reads : ReadsOf number events) (other : event.isReadOf number = false) :
    event ∉ events := by
  intro mem
  rw [reads.all event mem] at other
  cases other

theorem ReadsOf.noAnswer (reads : ReadsOf number events) :
    ∀ event ∈ events, ∀ requestId, event.isAnswerTo requestId = false := by
  intro event mem requestId
  have own := reads.all event mem
  cases event with
  | readPending | readReturned | readCompleted | readFailed => rfl
  | requested | startError | headersComplete | answered | arrived | killed => cases own

/-- Copying changes the offset alone. -/
theorem completeRead_frame (job : URLRequestChromeJob) (data : List UInt8) (bufSize : Int) :
    ∃ dataOffset, (job.completeRead data bufSize).1 = { job with dataOffset := dataOffset } := by
  unfold completeRead
  dsimp only
  split
  · split
    · exact ⟨_, rfl⟩
    · exact ⟨job.dataOffset, rfl⟩
  · split
    · exact ⟨_, rfl⟩
    · exact ⟨job.dataOffset, rfl⟩

/-- A read changes neither whether the job has a backend nor whether it is killed. -/
theorem readRawData_frame (read : job.readRawData number bufSize = some (after, events)) :
    ReadsOf number events ∧ after.hasBackend = job.hasBackend ∧ after.killed = job.killed ∧
      after.data = job.data ∧ (job.data = none → after.pendingBuf.isSome = after.reading) := by
  unfold readRawData at read
  split at read
  · split at read
    · cases read
      exact ⟨⟨by simp [isReadOf]⟩, rfl, rfl, rfl, fun _ => rfl⟩
    · cases read
  · next bytes data =>
    obtain ⟨_, same⟩ := completeRead_frame job bytes bufSize
    generalize job.completeRead bytes bufSize = outcome at read same
    cases read
    rw [same]
    refine ⟨⟨by simp [isReadOf]⟩, rfl, rfl, rfl, fun none => ?_⟩
    rw [none] at data
    cases data

/-- The arrival of an answer ends the waiting of its job. -/
theorem dataAvailable_frame (number : Nat) (job : URLRequestChromeJob)
    (bytes : Option (List UInt8)) :
    ReadsOf number (job.dataAvailable number bytes).2 ∧
      (job.dataAvailable number bytes).1.hasBackend = job.hasBackend ∧
      (job.dataAvailable number bytes).1.killed = job.killed ∧
      ((job.dataAvailable number bytes).1.data = bytes ∨ bytes = none) ∧
      (bytes = none → (job.dataAvailable number bytes).1.pendingBuf = job.pendingBuf ∧
        (job.dataAvailable number bytes).1.reading = false) := by
  cases bytes with
  | none => exact ⟨⟨by simp [dataAvailable, isReadOf]⟩, rfl, rfl, Or.inr rfl, fun _ => ⟨rfl, rfl⟩⟩
  | some bytes =>
    unfold dataAvailable
    dsimp only
    split
    · exact ⟨⟨by simp⟩, rfl, rfl, Or.inl rfl, fun none => by cases none⟩
    · next bufSize _ =>
      obtain ⟨_, same⟩ :=
        completeRead_frame { job with data := some bytes } bytes bufSize
      rw [same]
      exact ⟨⟨by simp [isReadOf]⟩, rfl, rfl, Or.inl rfl, fun none => by cases none⟩

end URLRequestChromeJob

end ChromiumIos
