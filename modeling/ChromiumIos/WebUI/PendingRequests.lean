import ChromiumIos.WebUI.RequestAnswers

/-!
# Jobs and their requests

The requests that are pending are those of live jobs that wait for their data.  Every step keeps
this, as long as an answer reaches its job in a state in which the job can take it.
-/

namespace ChromiumIos

open Lib DataEvent URLRequestChromeJob

def DataEvent.isRequest : DataEvent → Bool
  | .requested _ _ | .arrived _ | .killed _ => true
  | _ => false

namespace URLDataManagerIOSBackend

variable {sources : Nat → URLDataSource} {backend after : URLDataManagerIOSBackend}
variable {log events : List DataEvent} {input : Input} {job requestId : Nat}

@[simp]
theorem setJob_self (backend : URLDataManagerIOSBackend) (number : Nat)
    (job : URLRequestChromeJob) : (backend.setJob number job).jobs number = job :=
  Function.update_self ..

@[simp]
theorem setJob_of_ne (backend : URLDataManagerIOSBackend) {number other : Nat}
    (different : other ≠ number) (job : URLRequestChromeJob) :
    (backend.setJob number job).jobs other = backend.jobs other :=
  Function.update_of_ne different ..

def Waits (job : URLRequestChromeJob) : Prop :=
  job.data = none ∧ job.pendingBuf.isSome = job.reading

/-- Every job is in a phase; the pending requests are those of live jobs that wait, and other
requests have been answered or are those of killed jobs. -/
structure Served (log : List DataEvent) (backend : URLDataManagerIOSBackend) : Prop where
  phases : ∀ job, Phase job log (backend.jobs job)
  killed : ∀ job, .killed job ∈ log ↔ (backend.jobs job).killed = true
  fresh : ∀ job, (backend.jobs job).hasBackend = false → Waits (backend.jobs job)
  pending : ∀ requestId job, (requestId, job) ∈ backend.pendingRequests →
    .requested requestId job ∈ log ∧ .arrived requestId ∉ log ∧
      (backend.jobs job).killed = false ∧ Waits (backend.jobs job)
  distinctIds : (backend.pendingRequests.map Prod.fst).Nodup
  distinctJobs : (backend.pendingRequests.map Prod.snd).Nodup
  requested : ∀ requestId job, .requested requestId job ∈ log →
    requestId < backend.nextRequestId ∧ (backend.jobs job).hasBackend = true ∧
      ((backend.jobs job).killed = true ∨ (requestId, job) ∈ backend.pendingRequests ∨
        .arrived requestId ∈ log ∧ ¬Waits (backend.jobs job))
  unique : ∀ requestId other job, .requested requestId job ∈ log → .requested other job ∈ log →
    requestId = other

/-- A job that is looked at in the same way for its requests; at most it gets its backend. -/
structure SameRequests (job after : URLRequestChromeJob) : Prop where
  killed : after.killed = job.killed
  hasBackend : job.hasBackend = true → after.hasBackend = true
  waits : Waits after ↔ Waits job

variable {next : URLRequestChromeJob}

/-- A job is replaced by one that is looked at in the same way. -/
theorem sameRequests_setJob (backend : URLDataManagerIOSBackend)
    (same : SameRequests (backend.jobs job) next) (other : Nat) :
    SameRequests (backend.jobs other) ((backend.setJob job next).jobs other) := by
  by_cases own : other = job
  · subst own
    rwa [setJob_self]
  · rw [setJob_of_ne backend own]
    exact ⟨rfl, id, Iff.rfl⟩

variable (served : Served log backend)
include served

/-- Steps that change no request, after which the phases are known. -/
theorem Served.keep (phases : ∀ job, Phase job (log ++ events) (after.jobs job))
    (jobs : ∀ job, SameRequests (backend.jobs job) (after.jobs job))
    (pending : after.pendingRequests = backend.pendingRequests)
    (next : after.nextRequestId = backend.nextRequestId)
    (others : ∀ event ∈ events, event.isRequest = false) : Served (log ++ events) after := by
  have old : ∀ {event : DataEvent}, event.isRequest = true →
      event ∈ log ++ events → event ∈ log := by
    grind
  refine ⟨phases, fun job => ?_, fun job none => ?_, fun requestId job mem => ?_, ?_, ?_,
    fun requestId job mem => ?_, fun requestId other job mem mem' => ?_⟩
  · rw [(jobs job).killed, ← served.killed job]
    exact ⟨old rfl, List.mem_append_left _⟩
  · refine (jobs job).waits.mpr (served.fresh job (Bool.eq_false_iff.mpr fun has => ?_))
    rw [(jobs job).hasBackend has] at none
    cases none
  · rw [pending] at mem
    obtain ⟨asked, waiting, live, waits⟩ := served.pending requestId job mem
    refine ⟨List.mem_append_left _ asked, fun arrived => waiting (old rfl arrived), ?_,
      (jobs job).waits.mpr waits⟩
    rw [(jobs job).killed]
    exact live
  · rw [pending]
    exact served.distinctIds
  · rw [pending]
    exact served.distinctJobs
  · obtain ⟨before, has, fate⟩ := served.requested requestId job (old rfl mem)
    rw [next, pending, (jobs job).killed, (jobs job).waits]
    refine ⟨before, (jobs job).hasBackend has, fate.imp id (Or.imp id fun answered => ?_)⟩
    simp [answered]
  · exact served.unique requestId other job (old rfl mem) (old rfl mem')

/-- The job whose phase changes, among the others. -/
theorem Served.phases_setJob (phase : Phase job (log ++ events) next)
    (others : ∀ other ≠ job, ∀ event ∈ events, event.isReadOf other = false) (other : Nat) :
    Phase other (log ++ events) ((backend.setJob job next).jobs other) := by
  by_cases same : other = job
  · subst same
    rwa [setJob_self]
  · rw [setJob_of_ne backend same]
    exact (served.phases other).append ⟨rfl, rfl, rfl, rfl⟩ (others other same)

/-- A job is replaced by one with the same reads, with events that are not about reads. -/
theorem Served.setJob (reads : SameReads (backend.jobs job) next)
    (killed : next.killed = (backend.jobs job).killed)
    (hasBackend : (backend.jobs job).hasBackend = true → next.hasBackend = true)
    (others : ∀ event ∈ events, event.isRequest = false ∧ ∀ job, event.isReadOf job = false) :
    Served (log ++ events) (backend.setJob job next) := by
  have waits : Waits next ↔ Waits (backend.jobs job) := by
    unfold Waits
    rw [reads.data, reads.pendingBuf, reads.reading]
  refine served.keep ?_ (sameRequests_setJob backend ⟨killed, hasBackend, waits⟩) rfl rfl
    fun event mem => (others event mem).1
  exact served.phases_setJob ((served.phases job).append reads
    fun event mem => (others event mem).2 job) fun other _ event mem => (others event mem).2 other

/-- Steps that leave the jobs and the requests alone. -/
theorem Served.same (jobs : after.jobs = backend.jobs)
    (pending : after.pendingRequests = backend.pendingRequests)
    (next : after.nextRequestId = backend.nextRequestId)
    (others : ∀ event ∈ events, event.isRequest = false ∧ ∀ job, event.isReadOf job = false) :
    Served (log ++ events) after := by
  refine served.keep (fun job => ?_) (fun job => ?_) pending next
    fun event mem => (others event mem).1
  · rw [jobs]
    exact (served.phases job).append ⟨rfl, rfl, rfl, rfl⟩ fun event mem => (others event mem).2 job
  · rw [jobs]
    exact ⟨rfl, id, Iff.rfl⟩

/-- A request is added for a job that had no backend before. -/
theorem Served.add {ui : List DataUITask} (has : (backend.jobs job).hasBackend = true)
    (live : (backend.jobs job).killed = false) (waits : Waits (backend.jobs job))
    (first : ∀ requestId, .requested requestId job ∉ log)
    (arrived : .arrived backend.nextRequestId ∉ log) :
    Served (log ++ [.requested backend.nextRequestId job])
      { backend with
        nextRequestId := backend.nextRequestId + 1
        pendingRequests := backend.pendingRequests ++ [(backend.nextRequestId, job)]
        ui := ui } := by
  have old : ∀ {event : DataEvent}, event ≠ .requested backend.nextRequestId job →
      event ∈ log ++ [.requested backend.nextRequestId job] → event ∈ log :=
    by grind
  have asked : ∀ {requestId other}, (requestId, other) ∈ backend.pendingRequests →
      requestId < backend.nextRequestId ∧ other ≠ job := by
    intro requestId other mem
    have before := (served.pending requestId other mem).1
    refine ⟨(served.requested requestId other before).1, ?_⟩
    rintro rfl
    exact first requestId before
  refine ⟨fun other => ?_, fun other => ?_, served.fresh, fun requestId other mem => ?_, ?_, ?_,
    fun requestId other mem => ?_, fun requestId number other mem mem' => ?_⟩
  · exact (served.phases other).append ⟨rfl, rfl, rfl, rfl⟩ (by simp [isReadOf])
  · simp [← served.killed other]
  · grind [served.pending]
  · grind [served.distinctIds]
  · grind [served.distinctJobs]
  · grind [served.requested]
  · grind [served.unique]

theorem start_served {url : ChromeURL} (answers : Answers log backend)
    (none : (backend.jobs job).hasBackend = false) (live : (backend.jobs job).killed = false)
    (started : backend.start sources job url = some (after, events)) :
    Served (log ++ events) after := by
  have known : ∀ events : List DataEvent, (∀ event ∈ events, event.isRequest = false ∧
      ∀ job, event.isReadOf job = false) → Served (log ++ events)
        (backend.setJob job { backend.jobs job with hasBackend := true }) :=
    fun events => served.setJob ⟨rfl, rfl, rfl, rfl⟩ rfl fun _ => rfl
  rcases start_cases started with ⟨rfl, rfl⟩ | ⟨source, path, rfl, rfl⟩
  · exact known _ (by simp [isRequest, isReadOf])
  · have known := known [] (by simp)
    rw [List.append_nil] at known
    have first : ∀ requestId, .requested requestId job ∉ log := by
      intro requestId mem
      have has := (served.requested requestId job mem).2.1
      rw [none] at has
      cases has
    have arrived : .arrived backend.nextRequestId ∉ log := by
      intro mem
      obtain ⟨bytes, answered⟩ := answers.arrived _ mem
      have once := answers.once backend.nextRequestId
      rw [if_neg (Nat.lt_irrefl _)] at once
      have one : 0 < log.countP (isAnswerTo backend.nextRequestId) :=
        List.countP_pos_iff.mpr ⟨_, answered, decide_eq_true rfl⟩
      unfold answersTo at once
      omega
    refine known.add ?_ ?_ ?_ first arrived
    · rw [setJob_self]
    · rw [setJob_self]
      exact live
    · rw [setJob_self]
      exact served.fresh job none

omit served

theorem notRequest (reads : ReadsOf job events) : ∀ event ∈ events, event.isRequest = false := by
  intro event mem
  refine Bool.eq_false_iff.mpr fun request => ?_
  have own := reads.all event mem
  cases event with
  | requested | arrived | killed => cases own
  | startError | headersComplete | answered | readPending | readReturned | readCompleted
    | readFailed => cases request

include served

/-- A read changes the phase of its job and no request. -/
theorem read_served {bufSize : Int} (idle : (backend.jobs job).reading = false)
    (positive : 0 < bufSize) (empty : (backend.jobs job).pendingBuf = none)
    (read : backend.read job bufSize = some (after, events)) : Served (log ++ events) after := by
  obtain ⟨next, inner, rfl⟩ := read_cases read
  obtain ⟨reads, hasBackend, killed, data, waits⟩ := readRawData_frame inner
  have phase := readRawData_phase (served.phases job) idle positive inner
  have same : Waits next ↔ Waits (backend.jobs job) := by
    constructor
    · intro after
      refine ⟨data.symm.trans after.1, ?_⟩
      rw [empty, idle]
      rfl
    · grind [Waits]
  refine served.keep (served.phases_setJob phase fun other => reads.others)
    (sameRequests_setJob backend ⟨killed, fun has => hasBackend.trans has, same⟩) rfl rfl
    (notRequest reads)

omit served

/-- Erasing the first entry with a key leaves none, if the keys are distinct. -/
theorem mem_eraseP_key {α : Type} {key : α → Nat} {wanted : Nat} {entries : List α}
    (distinct : (entries.map key).Nodup) (entry : α) :
    entry ∈ entries.eraseP (fun other => key other = wanted) ↔
      entry ∈ entries ∧ key entry ≠ wanted := by
  induction entries with
  | nil => simp
  | cons _ _ _ =>
    grind

include served

/-- What is left of the pending requests when a job is killed. -/
theorem kill_pendingRequests (job : Nat) :
    (backend.kill job).1.pendingRequests.Sublist backend.pendingRequests ∧
      ∀ entry, entry ∈ (backend.kill job).1.pendingRequests ↔
        entry ∈ backend.pendingRequests ∧ entry.2 ≠ job := by
  unfold kill
  dsimp only
  split
  · exact ⟨List.eraseP_sublist, mem_eraseP_key served.distinctJobs⟩
  · next none =>
    refine ⟨List.Sublist.refl _, fun entry => ⟨fun mem => ⟨mem, ?_⟩, And.left⟩⟩
    rintro rfl
    exact none (served.requested _ _ (served.pending entry.1 entry.2 mem).1).2.1

omit served

theorem kill_jobs (backend : URLDataManagerIOSBackend) (job : Nat) :
    (backend.kill job).1.jobs =
      (backend.setJob job { backend.jobs job with killed := true }).jobs ∧
    (backend.kill job).1.nextRequestId = backend.nextRequestId := by
  unfold kill
  dsimp only
  split <;> simp [removeRequest, setJob]

include served

/-- A killed job has no request pending any more. -/
theorem kill_served (job : Nat) : Served (log ++ (backend.kill job).2) (backend.kill job).1 := by
  obtain ⟨sub, pending⟩ := kill_pendingRequests served job
  obtain ⟨jobs, next⟩ := kill_jobs backend job
  have old : ∀ {event : DataEvent}, event ≠ .killed job → event ∈ log ++ [.killed job] →
      event ∈ log :=
    by grind
  have others : ∀ other ≠ job, (backend.kill job).1.jobs other = backend.jobs other := by
    intro other different
    rw [jobs, setJob_of_ne backend different]
  have own : (backend.kill job).1.jobs job = { backend.jobs job with killed := true } := by
    rw [jobs, setJob_self]
  refine ⟨fun other => ?_, fun other => ?_, fun other none => ?_, fun requestId other mem => ?_,
    (sub.map _).nodup served.distinctIds, (sub.map _).nodup served.distinctJobs,
    fun requestId other mem => ?_, fun requestId number other mem mem' => ?_⟩
  · have quiet : ∀ other, ∀ event ∈ (backend.kill job).2, event.isReadOf other = false := by
      simp [kill, isReadOf]
    have phase : Phase job (log ++ (backend.kill job).2)
        { backend.jobs job with killed := true } :=
      (served.phases job).append ⟨rfl, rfl, rfl, rfl⟩ (quiet job)
    rw [jobs]
    exact served.phases_setJob phase (fun other _ => quiet other) other
  · by_cases same : other = job
    · subst same
      rw [own]
      simp [kill]
    · rw [others other same, ← served.killed other]
      simp [kill, same]
  · by_cases same : other = job
    · subst same
      rw [own] at none ⊢
      exact served.fresh other none
    · grind [served.fresh]
  · grind [kill, served.pending]
  · obtain ⟨before, has, fate⟩ := served.requested requestId other (old (by simp) mem)
    grind
  · exact served.unique requestId number other (old (by simp) mem) (old (by simp) mem')

/-- An answer arrives: the job of its request, if it is pending, does not wait any more. -/
theorem Served.arrive {more : List DataEvent}
    (phases : ∀ job, Phase job (log ++ .arrived requestId :: more) (after.jobs job))
    (flags : ∀ job, (after.jobs job).killed = (backend.jobs job).killed ∧
      (after.jobs job).hasBackend = (backend.jobs job).hasBackend)
    (ended : ∀ job, (requestId, job) ∈ backend.pendingRequests → ¬Waits (after.jobs job))
    (kept : ∀ job, (requestId, job) ∉ backend.pendingRequests →
      (Waits (after.jobs job) ↔ Waits (backend.jobs job)))
    (sub : after.pendingRequests.Sublist backend.pendingRequests)
    (pending : ∀ entry, entry ∈ after.pendingRequests ↔
      entry ∈ backend.pendingRequests ∧ entry.1 ≠ requestId)
    (next : after.nextRequestId = backend.nextRequestId)
    (others : ∀ event ∈ more, event.isRequest = false) :
    Served (log ++ .arrived requestId :: more) after := by
  have old : ∀ {event : DataEvent}, event.isRequest = true → event ≠ .arrived requestId →
      event ∈ log ++ .arrived requestId :: more → event ∈ log := by
    grind
  have now : .arrived requestId ∈ log ++ .arrived requestId :: more :=
    List.mem_append_right _ List.mem_cons_self
  refine ⟨phases, fun job => ?_, fun job none => ?_, fun number job mem => ?_,
    (sub.map _).nodup served.distinctIds, (sub.map _).nodup served.distinctJobs,
    fun number job mem => ?_, fun number other job mem mem' => ?_⟩
  · rw [(flags job).1, ← served.killed job]
    exact ⟨old rfl (by simp), List.mem_append_left _⟩
  · rw [(flags job).2] at none
    refine (kept job fun mem => ?_).mpr (served.fresh job none)
    have has := (served.requested requestId job (served.pending requestId job mem).1).2.1
    rw [none] at has
    cases has
  · obtain ⟨mem, different⟩ := (pending _).mp mem
    obtain ⟨asked, waiting, live, waits⟩ := served.pending number job mem
    rw [(flags job).1]
    refine ⟨List.mem_append_left _ asked, fun arrived => ?_, live, (kept job fun mem' => ?_).mpr
      waits⟩
    · exact waiting (old rfl (fun same => different (DataEvent.arrived.inj same)) arrived)
    · exact different (served.unique number requestId job asked (served.pending _ job mem').1)
  · obtain ⟨before, has, fate⟩ := served.requested number job (old rfl (by simp) mem)
    grind
  · exact served.unique number other job (old rfl (by simp) mem) (old rfl (by simp) mem')

theorem arrive_none (none : ∀ entry ∈ backend.pendingRequests, entry.1 ≠ requestId) :
    Served (log ++ [.arrived requestId]) backend := by
  refine served.arrive (fun job => ?_) (fun _ => ⟨rfl, rfl⟩)
    (fun job mem => absurd rfl (none _ mem)) (fun _ _ => Iff.rfl) (List.Sublist.refl _)
    (fun entry => ⟨fun mem => ⟨mem, none entry mem⟩, And.left⟩) rfl (by simp)
  exact (served.phases job).append ⟨rfl, rfl, rfl, rfl⟩ (by simp [isReadOf])

omit served

/-- What a job can be told: data that an `int` can count, or a failure of its pending read. -/
def Servable (job : URLRequestChromeJob) : Option (List UInt8) → Prop
  | none => job.pendingBuf.isSome = true
  | some bytes => bytes.length < 2 ^ 31

include served

theorem arrive_job {bytes : Option (List UInt8)}
    (mem : (requestId, job) ∈ backend.pendingRequests)
    (answered : .answered requestId bytes ∈ log) (servable : Servable (backend.jobs job) bytes) :
    Served (log ++ .arrived requestId :: ((backend.jobs job).dataAvailable job bytes).2)
      { backend.setJob job ((backend.jobs job).dataAvailable job bytes).1 with
        pendingRequests := backend.pendingRequests.eraseP fun entry => entry.1 = requestId } := by
  obtain ⟨asked, -, -, waits⟩ := served.pending requestId job mem
  obtain ⟨reads, hasBackend, killed, data, failed⟩ :=
    dataAvailable_frame job (backend.jobs job) bytes
  have arrived : ∀ event ∈ [DataEvent.arrived requestId], event.isReadOf job = false := by
    simp [isReadOf]
  have before := (served.phases job).append ⟨rfl, rfl, rfl, rfl⟩ arrived
  -- The phase of the job that was waiting for this answer.
  have phase : Phase job (log ++ .arrived requestId ::
      ((backend.jobs job).dataAvailable job bytes).2)
      ((backend.jobs job).dataAvailable job bytes).1 := by
    rw [List.append_cons]
    cases bytes with
    | none => exact dataAvailable_failed before waits.1 waits.2 servable
    | some _ =>
      exact dataAvailable_serving before waits.1 waits.2 (List.mem_append_left _ asked)
        (List.mem_append_left _ answered) servable
  have done : ¬Waits ((backend.jobs job).dataAvailable job bytes).1 := by
    rintro ⟨none, idle⟩
    cases bytes with
    | none =>
      obtain ⟨pendingBuf, reading⟩ := failed rfl
      rw [pendingBuf, reading, show (backend.jobs job).pendingBuf.isSome = true from
        servable] at idle
      cases idle
    | some _ =>
      simp [none] at data
  have same : ∀ other, (requestId, other) ∈ backend.pendingRequests → other = job := by
    intro other mem'
    exact congrArg Prod.snd (List.inj_on_of_nodup_map served.distinctIds mem' mem rfl)
  refine served.arrive (fun other => ?_) (fun other => ?_) (fun other mem' => ?_)
    (fun other absent => ?_) List.eraseP_sublist (mem_eraseP_key served.distinctIds) rfl ?_
  · grind [isReadOf, reads.others, served.phases_setJob]
  · grind [setJob_self, setJob_of_ne]
  · grind [setJob_self]
  · grind [setJob_of_ne]
  · exact notRequest reads

omit served

/-- The answer that reaches the IO thread for a pending request comes through a source that has
its backend, and can be told to the job; buffers are not empty and no read follows a failure. -/
def CanServe (backend : URLDataManagerIOSBackend) : Input → Prop
  | .runIOTask => ∀ source requestId bytes job,
      backend.io.head? = some (.sendResponse source requestId bytes) →
        (requestId, job) ∈ backend.pendingRequests →
          backend.hasBackend source = true ∧ Servable (backend.jobs job) bytes
  | .read job bufSize => 0 < bufSize ∧ (backend.jobs job).pendingBuf = none
  | _ => True

theorem runIOTask_served {task : DataIOTask} {rest : List DataIOTask}
    (served : Served log backend) (answers : Answers log backend)
    (canServe : CanServe backend .runIOTask) (io : backend.io = task :: rest)
    (performed : ({ backend with io := rest } : URLDataManagerIOSBackend).performIOTask task =
      (after, events)) : Served (log ++ events) after := by
  have taken : Served log { backend with io := rest } := by
    have taken : Served (log ++ []) { backend with io := rest } :=
      served.same rfl rfl rfl (by simp)
    rwa [List.append_nil] at taken
  unfold performIOTask at performed
  cases task with
  | mimeTypeAvailable job number mimeType =>
    dsimp only at performed
    split at performed
    · cases performed
      grind
    · cases performed
      have same : ∃ source, ((backend.jobs job).mimeTypeAvailable job number mimeType).1 =
          { backend.jobs job with mimeType := mimeType, source := source } := by
        unfold mimeTypeAvailable
        split <;> simp
      obtain ⟨source, same⟩ := same
      rw [same]
      exact taken.setJob ⟨rfl, rfl, rfl, rfl⟩ rfl id
        (by simp [mimeTypeAvailable, isRequest, isReadOf])
  | sendResponse source requestId bytes =>
    have answered : .answered requestId bytes ∈ log := by
      grind [List.mem_cons_self, answers.io]
    dsimp only at performed
    split at performed
    · cases performed
      rcases dataAvailable_cases ({ backend with io := rest } : URLDataManagerIOSBackend)
        requestId bytes with ⟨none, same⟩ | ⟨job, mem, same⟩
      · rw [same]
        exact arrive_none taken none
      · rw [same]
        exact arrive_job taken mem answered (canServe source requestId bytes job
          (by rw [io]; rfl) mem).2
    · next detached =>
      cases performed
      refine arrive_none taken fun entry mem same => detached ?_
      obtain ⟨number, job⟩ := entry
      cases same
      exact (canServe source number bytes job (by rw [io]; rfl) mem).1

end URLDataManagerIOSBackend

end ChromiumIos
