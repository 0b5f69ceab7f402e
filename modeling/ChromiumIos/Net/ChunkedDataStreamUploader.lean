import ChromiumIos.Lib.Runs
import ChromiumIos.Lib.Stateful

/-!
# The uploader of a chunked body stream

The uploader stands between the network layer, which reads the body of a
request into buffers of its own, and the application, which signals that bytes
are available or that the stream has ended.  Either side can be first.  A read
that finds no bytes stays pending, and the next signal completes it.

The base class is known by its contract: `Init` resets the stream before it
initialises it, a read at the end of the stream returns zero without reaching
the uploader, and `SetIsFinalChunk` puts the stream at its end.  The bytes that
the delegate supplies at each read come with the event that causes the read.
-/

namespace ChromiumIos

open Lib

abbrev Buffer := Nat

abbrev Bytes := List UInt8

def ok : Int := 0

def errIoPending : Int := -1

def errFailed : Int := -2

structure ChunkedDataStreamUploader where
  pendingReadBuffer : Option Buffer
  pendingReadBufferLength : Nat
  pendingInternalRead : Bool
  isFinalChunk : Bool
  isFrontOfStream : Bool
deriving DecidableEq, Repr

/-- What `OnRead` of the delegate does: it writes some bytes, possibly none, or
returns an error. -/
inductive Supply where
  | bytes (data : Bytes)
  | failure (code : Int)
deriving DecidableEq, Repr

variable {length : Nat}

namespace Supply

def data : Supply → Bytes
  | bytes data => data
  | failure _ => []

def bytesRead : Supply → Int
  | bytes data => data.length
  | failure code => code

/-- The delegate stays inside the buffer and reports errors by negative codes. -/
def Fits : Supply → Nat → Prop
  | bytes data, length => data.length ≤ length
  | failure code, _ => code < 0

instance : (supply : Supply) → (length : Nat) → Decidable (supply.Fits length)
  | bytes data, length => inferInstanceAs (Decidable (data.length ≤ length))
  | failure code, _ => inferInstanceAs (Decidable (code < 0))

variable {supply : Supply}

theorem data_of_nothing (nothing : supply.bytesRead ≤ 0) : supply.data = [] := by
  cases supply with
  | bytes data =>
    have empty : data.length = 0 := by
      simp only [bytesRead] at nothing
      omega
    exact List.length_eq_zero_iff.mp empty
  | failure _ => rfl

theorem take_bytesRead (some : 0 < supply.bytesRead) (fits : supply.Fits length) (rest : Bytes) :
    (supply.data ++ rest).take supply.bytesRead.toNat = supply.data := by
  cases supply <;> grind [bytesRead, data, Fits]

end Supply

/-- The stream as the network layer sees it through the base class: the buffer of the
read it waits for, the contents of its buffers and the bytes it has taken from them. -/
structure NetworkLayer where
  initialized : Bool
  isEof : Bool
  reading : Option Buffer
  contents : Buffer → Bytes
  delivered : Bytes

/-- The uploader between both sides.  `supplied` and `finalGiven` record what the
application has done. -/
structure Exchange where
  uploader : ChunkedDataStreamUploader
  network : NetworkLayer
  supplied : Bytes
  finalGiven : Bool

/-- What the network layer is told. -/
inductive Answer where
  | initReturned (result : Int)
  | readReturned (result : Int)
  | readCompleted (result : Int)
deriving DecidableEq, Repr

namespace Exchange

def initial : Exchange where
  uploader :=
    { pendingReadBuffer := none
      pendingReadBufferLength := 0
      pendingInternalRead := false
      isFinalChunk := false
      isFrontOfStream := true }
  network :=
    { initialized := false
      isEof := false
      reading := none
      contents := fun _ => []
      delivered := [] }
  supplied := []
  finalGiven := false

/-! ## The base class -/

def setIsFinalChunk : Stateful Exchange PUnit :=
  modify fun s => { s with network := { s.network with isEof := true } }

variable {s after : Exchange} (buffer : Buffer) (supply : Supply)

/-- The network layer takes the bytes that were read from the front of its buffer. -/
def receive (result : Int) : Stateful Exchange PUnit :=
  modify fun s =>
    { s with network :=
      { s.network with
        reading := none
        delivered := s.network.delivered ++ (s.network.contents buffer).take result.toNat } }

def onReadCompleted (result : Int) : Stateful Exchange (List Answer) := do
  let buffer ← liftM (← get).network.reading
  receive buffer result
  return [.readCompleted result]

/-! ## The delegate -/

def onRead : Stateful Exchange Int := do
  modify fun s =>
    { s with
      supplied := s.supplied ++ supply.data
      network :=
        { s.network with
          contents := Function.update s.network.contents buffer
            (supply.data ++ (s.network.contents buffer).drop supply.data.length) } }
  return supply.bytesRead

/-! ## The uploader -/

def initInternal (uploader : ChunkedDataStreamUploader) : Int :=
  if uploader.isFrontOfStream then ok else errFailed

def resetInternal : Stateful Exchange PUnit :=
  modify fun s =>
    { s with uploader :=
      { s.uploader with
        pendingReadBuffer := none
        pendingReadBufferLength := 0
        pendingInternalRead := false
        isFinalChunk := false } }

def finishUpload (bytesRead : Int) : Stateful Exchange (Int × List Answer) := do
  modify fun s =>
    { s with uploader :=
      { s.uploader with pendingReadBuffer := none, pendingReadBufferLength := 0 } }
  if (← get).uploader.pendingInternalRead then
    modify fun s => { s with uploader := { s.uploader with pendingInternalRead := false } }
    return (bytesRead, ← onReadCompleted bytesRead)
  return (bytesRead, [])

def upload : Stateful Exchange (Int × List Answer) := do
  let buffer ← liftM (← get).uploader.pendingReadBuffer
  modify fun s => { s with uploader := { s.uploader with isFrontOfStream := false } }
  if (← get).uploader.isFinalChunk then
    setIsFinalChunk
    finishUpload 0
  else
    let bytesRead ← onRead buffer supply
    if bytesRead ≤ 0 then
      modify fun s => { s with uploader := { s.uploader with pendingInternalRead := true } }
      return (errIoPending, [])
    finishUpload bytesRead

def readInternal (length : Nat) (supply : Supply) : Stateful Exchange (Int × List Answer) := do
  liftM (dcheck (0 < length))
  liftM (dcheck ((← get).uploader.pendingReadBuffer = none))
  modify fun s =>
    { s with uploader :=
      { s.uploader with pendingReadBuffer := some buffer, pendingReadBufferLength := length } }
  upload supply

def uploadWhenReady (isFinalChunk : Bool) (supply : Supply) : Stateful Exchange (List Answer) := do
  modify fun s =>
    { s with
      finalGiven := s.finalGiven || isFinalChunk
      uploader := { s.uploader with isFinalChunk := isFinalChunk } }
  if (← get).uploader.pendingInternalRead then
    return (← upload supply).2
  return []

/-! ## The network layer -/

def init : Stateful Exchange (List Answer) := do
  modify fun s =>
    { s with network := { s.network with initialized := false, isEof := false, reading := none } }
  resetInternal
  let result := initInternal (← get).uploader
  modify fun s => { s with network := { s.network with initialized := result == ok } }
  return [.initReturned result]

def read (length : Nat) (supply : Supply) : Stateful Exchange (List Answer) := do
  if (← get).network.isEof then
    return [.readReturned 0]
  let (result, completions) ← readInternal buffer length supply
  if result = errIoPending then
    modify fun s => { s with network := { s.network with reading := some buffer } }
  else
    receive buffer result
  return completions ++ [.readReturned result]

inductive Input where
  | uploadWhenReady (isFinalChunk : Bool) (supply : Supply)
  | init
  | read (buffer : Buffer) (length : Nat) (supply : Supply)
deriving DecidableEq, Repr

def run : Input → Stateful Exchange (List Answer)
  | .uploadWhenReady isFinalChunk supply => Exchange.uploadWhenReady isFinalChunk supply
  | .init => Exchange.init
  | .read buffer length supply => Exchange.read buffer length supply

def step (exchange : Exchange) (input : Input) : Checked (Exchange × List Answer) :=
  (run input exchange).map Prod.swap

/-- What the delegate can supply: nothing comes after the stream has ended. -/
def CanSupply (exchange : Exchange) (length : Nat) (supply : Supply) : Prop :=
  supply.Fits length ∧ (exchange.finalGiven = true → supply = .bytes [])
deriving Decidable

/-- Both sides keep to their contracts.  The application stops listening to its stream
when the stream ends; the network layer initialises before it reads, has room in its
buffer, and waits for one read before it starts another. -/
def Accepts (exchange : Exchange) : Input → Prop
  | .uploadWhenReady _ supply =>
    exchange.finalGiven = false ∧
      exchange.CanSupply exchange.uploader.pendingReadBufferLength supply
  | .init => True
  | .read _ length supply =>
    exchange.network.initialized = true ∧ exchange.network.reading = none ∧ 0 < length ∧
      exchange.CanSupply length supply

instance (exchange : Exchange) : (input : Input) → Decidable (exchange.Accepts input)
  | .uploadWhenReady _ _ => inferInstanceAs (Decidable (_ = false ∧ _))
  | .init => inferInstanceAs (Decidable True)
  | .read _ _ _ => inferInstanceAs (Decidable (_ = true ∧ _ = none ∧ _ < _ ∧ _))

/-! ## What a read does -/

section Reads

variable {s : Exchange} {buffer : Buffer} {supply : Supply}

theorem finishUpload_idle (idle : s.uploader.pendingInternalRead = false) (bytesRead : Int) :
    finishUpload bytesRead s =
      some ((bytesRead, []),
        { s with uploader :=
          { s.uploader with pendingReadBuffer := none, pendingReadBufferLength := 0 } }) := by
  simp only [finishUpload]
  rw [Stateful.run_bind rfl, Stateful.run_get, if_neg (by simp [idle])]
  rfl

theorem finishUpload_waiting (waiting : s.uploader.pendingInternalRead = true)
    (reading : s.network.reading = some buffer) (bytesRead : Int) :
    finishUpload bytesRead s =
      some ((bytesRead, [.readCompleted bytesRead]),
        { s with
          uploader :=
            { s.uploader with
              pendingReadBuffer := none
              pendingReadBufferLength := 0
              pendingInternalRead := false }
          network :=
            { s.network with
              reading := none
              delivered := s.network.delivered ++
                (s.network.contents buffer).take bytesRead.toNat } }) := by
  simp only [finishUpload]
  rw [Stateful.run_bind rfl, Stateful.run_get, if_pos (by simp [waiting]),
    Stateful.run_bind rfl]
  simp only [onReadCompleted, bind_assoc]
  rw [Stateful.run_get, Stateful.run_bind (Stateful.run_lift reading _)]
  rfl

def ending (s : Exchange) : Exchange :=
  { s with
    uploader := { s.uploader with isFrontOfStream := false }
    network := { s.network with isEof := true } }

theorem upload_final (pending : s.uploader.pendingReadBuffer = some buffer)
    (final : s.uploader.isFinalChunk = true) :
    upload supply s = finishUpload 0 s.ending := by
  simp only [upload]
  rw [Stateful.run_get, Stateful.run_bind (Stateful.run_lift pending _), Stateful.run_bind rfl,
    Stateful.run_get, if_pos final]
  rfl

/-- The state in which the delegate has supplied its bytes. -/
def supplying (s : Exchange) (buffer : Buffer) (supply : Supply) : Exchange :=
  { s with
    uploader := { s.uploader with isFrontOfStream := false }
    supplied := s.supplied ++ supply.data
    network :=
      { s.network with
        contents := Function.update s.network.contents buffer
          (supply.data ++ (s.network.contents buffer).drop supply.data.length) } }

/-- The state in which the application has given its signal. -/
def signalled (s : Exchange) (isFinalChunk : Bool) : Exchange :=
  { s with
    finalGiven := s.finalGiven || isFinalChunk
    uploader := { s.uploader with isFinalChunk := isFinalChunk } }

def requested (s : Exchange) (buffer : Buffer) (length : Nat) : Exchange :=
  { s with uploader :=
    { s.uploader with pendingReadBuffer := some buffer, pendingReadBufferLength := length } }

theorem upload_nothing (pending : s.uploader.pendingReadBuffer = some buffer)
    (more : s.uploader.isFinalChunk = false) (nothing : supply.bytesRead ≤ 0) :
    upload supply s =
      some ((errIoPending, []),
        { s.supplying buffer supply with
          uploader :=
            { s.uploader with isFrontOfStream := false, pendingInternalRead := true } }) := by
  simp only [upload]
  rw [Stateful.run_get, Stateful.run_bind (Stateful.run_lift pending _), Stateful.run_bind rfl,
    Stateful.run_get, if_neg (by simp [more]), Stateful.run_bind rfl, if_pos nothing]
  rfl

theorem upload_bytes (pending : s.uploader.pendingReadBuffer = some buffer)
    (more : s.uploader.isFinalChunk = false) (some : 0 < supply.bytesRead) :
    upload supply s = finishUpload supply.bytesRead (s.supplying buffer supply) := by
  simp only [upload]
  rw [Stateful.run_get, Stateful.run_bind (Stateful.run_lift pending _), Stateful.run_bind rfl,
    Stateful.run_get, if_neg (by simp [more]), Stateful.run_bind rfl, if_neg (by omega)]
  rfl

theorem take_supplying (some : 0 < supply.bytesRead) (fits : supply.Fits length) :
    ((s.supplying buffer supply).network.contents buffer).take supply.bytesRead.toNat =
      supply.data := by
  simpa [supplying] using Supply.take_bytesRead some fits _

theorem readInternal_eq (buffer : Buffer) (supply : Supply) (room : 0 < length)
    (idle : s.uploader.pendingReadBuffer = none) :
    readInternal buffer length supply s = upload supply (s.requested buffer length) := by
  simp only [readInternal]
  rw [Stateful.run_bind (Stateful.run_lift (dcheck_of room) s), Stateful.run_get,
    Stateful.run_bind (Stateful.run_lift (dcheck_of idle) s), Stateful.run_bind rfl]
  rfl

theorem read_eof (eof : s.network.isEof = true) :
    read buffer length supply s = some ([.readReturned 0], s) := by
  simp only [read]
  rw [Stateful.run_get, if_pos eof]
  rfl

theorem read_eq {result : Int} {completions : List Answer} (opened : s.network.isEof = false)
    (ran : readInternal buffer length supply s = some ((result, completions), after)) :
    read buffer length supply s =
      if result = errIoPending then
        some (completions ++ [.readReturned result],
          { after with network := { after.network with reading := some buffer } })
      else
        some (completions ++ [.readReturned result],
          { after with network :=
            { after.network with
              reading := none
              delivered := after.network.delivered ++
                (after.network.contents buffer).take result.toNat } }) := by
  simp only [read]
  rw [Stateful.run_get, if_neg (by simp [opened]), Stateful.run_bind ran]
  split <;> rfl

end Reads

/-! ## Both sides agree -/

/-- The uploader holds the buffer of the read that the network layer waits for and no
other, and the network layer has all bytes that were supplied. -/
structure Consistent (s : Exchange) : Prop where
  buffer : s.uploader.pendingReadBuffer = s.network.reading
  waiting : s.uploader.pendingInternalRead = s.network.reading.isSome
  delivered : s.network.delivered = s.supplied

/-- After the final-chunk signal no read is left waiting, and a read that can still come
finds the signal. -/
def EndKept (s : Exchange) : Prop :=
  s.finalGiven = true →
    s.network.reading = none ∧ (s.network.initialized = true → s.uploader.isFinalChunk = true)

section Steps

variable {s : Exchange} {buffer : Buffer} {supply : Supply} {length : Nat}

variable (consistent : Consistent s)
include consistent

theorem signal_idle (idle : s.network.reading = none) (isFinalChunk : Bool) :
    step s (.uploadWhenReady isFinalChunk supply) =
      some (s.signalled isFinalChunk, []) := by
  have notWaiting : s.uploader.pendingInternalRead = false := by
    rw [consistent.waiting, idle]
    rfl
  simp only [step, run, uploadWhenReady]
  rw [Stateful.run_bind rfl, Stateful.run_get, if_neg (by simp [notWaiting])]
  rfl

theorem uploadWhenReady_waiting (reading : s.network.reading = some buffer) (isFinalChunk : Bool) :
    uploadWhenReady isFinalChunk supply s =
      (upload supply (s.signalled isFinalChunk)).map
        fun (uploaded, after) => (uploaded.2, after) := by
  have waiting : s.uploader.pendingInternalRead = true := by
    rw [consistent.waiting, reading]
    rfl
  simp only [uploadWhenReady]
  rw [Stateful.run_bind rfl, Stateful.run_get, if_pos (by simp [waiting])]
  change (upload supply (s.signalled isFinalChunk)).bind _ = _
  cases upload supply (s.signalled isFinalChunk) <;> rfl

/-- The final-chunk signal ends the read that is waiting. -/
theorem signal_final (reading : s.network.reading = some buffer) :
    ∃ after, step s (.uploadWhenReady true supply) = some (after, [.readCompleted 0]) ∧
      after.network.isEof = true ∧ after.network.reading = none ∧ Consistent after ∧
      EndKept after := by
  have pending := consistent.buffer.trans reading
  have waiting : s.uploader.pendingInternalRead = true := by
    rw [consistent.waiting, reading]
    rfl
  simp only [step, run]
  rw [uploadWhenReady_waiting consistent reading,
    upload_final (s := s.signalled true) pending rfl,
    finishUpload_waiting (s := (s.signalled true).ending) waiting reading]
  refine ⟨_, rfl, rfl, rfl, ⟨rfl, rfl, ?_⟩, fun _ => ⟨rfl, fun _ => rfl⟩⟩
  simpa [signalled, ending] using consistent.delivered

/-- Any other signal completes the waiting read with the bytes that have come, or leaves it
waiting. -/
theorem signal_more (reading : s.network.reading = some buffer) (notGiven : s.finalGiven = false)
    (fits : supply.Fits length) :
    ∃ after emitted, step s (.uploadWhenReady false supply) = some (after, emitted) ∧
      Consistent after ∧ EndKept after := by
  have pending := consistent.buffer.trans reading
  have waiting : s.uploader.pendingInternalRead = true := by
    rw [consistent.waiting, reading]
    rfl
  have stillOpen : (s.finalGiven || false) ≠ true := by simp [notGiven]
  simp only [step, run]
  rw [uploadWhenReady_waiting consistent reading]
  by_cases nothing : supply.bytesRead ≤ 0
  · rw [upload_nothing (s := s.signalled false) pending rfl nothing]
    refine ⟨_, _, rfl, ⟨consistent.buffer, ?_, ?_⟩, fun given => absurd given stillOpen⟩
    · simp [supplying, signalled, reading]
    · simpa [supplying, signalled, Supply.data_of_nothing nothing] using consistent.delivered
  · have some : 0 < supply.bytesRead := by omega
    rw [upload_bytes (s := s.signalled false) pending rfl some,
      finishUpload_waiting (s := (s.signalled false).supplying buffer supply) waiting reading]
    refine ⟨_, _, rfl, ⟨rfl, rfl, ?_⟩, fun given => absurd given stillOpen⟩
    rw [take_supplying some fits]
    exact congrArg (· ++ supply.data) consistent.delivered

theorem init_step (kept : s.finalGiven = false ∨ s.uploader.isFrontOfStream = false) :
    ∃ after emitted, step s .init = some (after, emitted) ∧ Consistent after ∧ EndKept after := by
  refine ⟨_, _, rfl, ⟨rfl, rfl, consistent.delivered⟩, ?_⟩
  intro given
  refine ⟨rfl, ?_⟩
  intro initialized
  rcases kept with notGiven | behind
  · exact absurd given (by simp [notGiven])
  · simp [initInternal, behind] at initialized
    contradiction

omit consistent

/-- A read that finds the final-chunk signal ends the upload. -/
theorem read_final (buffer : Buffer) (supply : Supply) (consistent : Consistent s)
    (idle : s.network.reading = none) (room : 0 < length)
    (final : s.uploader.isFinalChunk = true) :
    ∃ after, step s (.read buffer length supply) = some (after, [.readReturned 0]) ∧
      after.network.isEof = true ∧ Consistent after ∧ EndKept after := by
  have pending := consistent.buffer.trans idle
  have notWaiting : s.uploader.pendingInternalRead = false := by
    rw [consistent.waiting, idle]
    rfl
  simp only [step, run]
  by_cases eof : s.network.isEof = true
  · grind [EndKept, read_eof eof]
  · have ran := readInternal_eq buffer supply room pending
    rw [upload_final (s := s.requested buffer length) rfl final,
      finishUpload_idle (s := (s.requested buffer length).ending) notWaiting] at ran
    rw [read_eq (by simpa using eof) ran, if_neg (by decide)]
    refine ⟨_, rfl, rfl, ⟨rfl, notWaiting, ?_⟩, fun _ => ⟨rfl, fun _ => final⟩⟩
    simpa [requested, ending] using consistent.delivered

theorem read_more (consistent : Consistent s) (idle : s.network.reading = none)
    (room : 0 < length) (fits : supply.Fits length) (more : s.uploader.isFinalChunk = false)
    (notGiven : s.finalGiven = false) :
    ∃ after emitted, step s (.read buffer length supply) = some (after, emitted) ∧
      Consistent after ∧ EndKept after := by
  have pending := consistent.buffer.trans idle
  have notWaiting : s.uploader.pendingInternalRead = false := by
    rw [consistent.waiting, idle]
    rfl
  have endKept : ∀ {after : Exchange}, after.finalGiven = s.finalGiven → EndKept after :=
    fun same given => absurd given (by simp [same, notGiven])
  simp only [step, run]
  by_cases eof : s.network.isEof = true
  · simp [read_eof eof, consistent, endKept]
  · have ran := readInternal_eq buffer supply room pending
    have opened : s.network.isEof = false := by simpa using eof
    by_cases nothing : supply.bytesRead ≤ 0
    · rw [upload_nothing (s := s.requested buffer length) rfl more nothing] at ran
      rw [read_eq opened ran, if_pos rfl]
      refine ⟨_, _, rfl, ⟨rfl, rfl, ?_⟩, endKept rfl⟩
      simpa [supplying, requested, Supply.data_of_nothing nothing] using consistent.delivered
    · have some : 0 < supply.bytesRead := by omega
      rw [upload_bytes (s := s.requested buffer length) rfl more some,
        finishUpload_idle (s := (s.requested buffer length).supplying buffer supply) notWaiting]
        at ran
      have notPending : supply.bytesRead ≠ errIoPending := by
        simp only [errIoPending]
        omega
      rw [read_eq opened ran, if_neg notPending]
      refine ⟨_, _, rfl, ⟨rfl, notWaiting, ?_⟩, endKept rfl⟩
      rw [take_supplying (s := s.requested buffer length) some fits]
      exact congrArg (· ++ supply.data) consistent.delivered

def KeepsSignal (s : Exchange) (input : Input) : Prop :=
  input = .init → s.finalGiven = false ∨ s.uploader.isFrontOfStream = false
deriving Decidable

include consistent

theorem step_kept {input : Input} (endKept : EndKept s) (accepted : s.Accepts input)
    (kept : s.KeepsSignal input) :
    ∃ after emitted, step s input = some (after, emitted) ∧ Consistent after ∧ EndKept after := by
  cases input with
  | uploadWhenReady isFinalChunk _ =>
    obtain ⟨notGiven, fits, -⟩ := accepted
    cases reading : s.network.reading with
    | none =>
      refine ⟨_, _, signal_idle consistent reading isFinalChunk, ?_, ?_⟩
      · exact ⟨consistent.buffer, consistent.waiting, consistent.delivered⟩
      · intro given
        have final : isFinalChunk = true := by simpa [signalled, notGiven] using given
        exact ⟨reading, fun _ => final⟩
    | some _ =>
      cases isFinalChunk with
      | true =>
        obtain ⟨after, stepped, -, -, kept⟩ := signal_final consistent reading
        exact ⟨after, _, stepped, kept⟩
      | false => exact signal_more consistent reading notGiven fits
  | init => exact init_step consistent (kept rfl)
  | read buffer _ supply =>
    obtain ⟨initialized, idle, room, fits, -⟩ := accepted
    cases final : s.uploader.isFinalChunk with
    | true =>
      obtain ⟨after, stepped, -, kept⟩ := read_final buffer supply consistent idle room final
      grind
    | false =>
      have notGiven : s.finalGiven = false := by
        refine Bool.eq_false_iff.mpr fun given => ?_
        exact absurd ((endKept given).2 initialized) (by simp [final])
      exact read_more consistent idle room fits final notGiven

end Steps

/-! ## The whole upload -/

/-- What an upload promises in a state: nothing of what was supplied is missing, doubled or
out of order; one read is waited for at most, by both sides; no assertion can fail next; and
the final-chunk signal ends the waiting read or, once given, the next one. -/
structure Faithful (s : Exchange) : Prop where
  delivered : s.network.delivered = s.supplied
  onePending : s.uploader.pendingReadBuffer = s.network.reading ∧
    s.uploader.pendingInternalRead = s.network.reading.isSome
  returns : ∀ input, s.Accepts input → ∃ after emitted, step s input = some (after, emitted)
  pendingEnds : ∀ supply, s.network.reading ≠ none → s.Accepts (.uploadWhenReady true supply) →
    ∃ after, step s (.uploadWhenReady true supply) = some (after, [.readCompleted 0]) ∧
      after.network.isEof = true ∧ after.network.reading = none
  nextEnds : s.finalGiven = true → s.network.reading = none ∧
    ∀ buffer length supply, s.Accepts (.read buffer length supply) →
      ∃ after, step s (.read buffer length supply) = some (after, [.readReturned 0]) ∧
        after.network.isEof = true

theorem Consistent.faithful (consistent : Consistent s) (endKept : EndKept s) : Faithful s where
  delivered := consistent.delivered
  onePending := ⟨consistent.buffer, consistent.waiting⟩
  returns := by
    intro input accepted
    by_cases init : input = .init
    · cases init
      exact ⟨_, _, rfl⟩
    · obtain ⟨after, emitted, stepped, -⟩ :=
        step_kept consistent endKept accepted fun same => absurd same init
      exact ⟨after, emitted, stepped⟩
  pendingEnds := by
    intro supply reading accepted
    obtain ⟨buffer, reading⟩ := Option.ne_none_iff_exists'.mp reading
    obtain ⟨after, stepped, eof, idle, -⟩ := signal_final consistent reading
    exact ⟨after, stepped, eof, idle⟩
  nextEnds := by
    intro given
    refine ⟨(endKept given).1, ?_⟩
    intro buffer length supply accepted
    obtain ⟨initialized, idle, room, -⟩ := accepted
    obtain ⟨after, stepped, eof, -⟩ :=
      read_final buffer supply consistent idle room ((endKept given).2 initialized)
    exact ⟨after, stepped, eof⟩

/-- An `Init` of an unread stream forgets a final-chunk signal: the read that follows it waits
for bytes that do not come. -/
theorem init_loses_signal (given : s.finalGiven = true)
    (front : s.uploader.isFrontOfStream = true) {emitted : List Answer}
    (stepped : step s .init = some (after, emitted)) : ¬ Faithful after := by
  cases stepped
  intro faithful
  obtain ⟨last, read, -⟩ := (faithful.nextEnds given).2 0 1 (.bytes [])
    ⟨by simp [initInternal, front], rfl, Nat.one_pos, Nat.zero_le 1, fun _ => rfl⟩
  have waits : ∀ {t : Exchange}, t.network.isEof = false → t.uploader.pendingReadBuffer = none →
      t.uploader.isFinalChunk = false →
        Exchange.read 0 1 (.bytes []) t ≠ some ([.readReturned 0], last) := by
    intro t opened idle more returned
    have ran := readInternal_eq 0 (.bytes []) Nat.one_pos idle
    rw [upload_nothing (s := t.requested 0 1) rfl more (by decide)] at ran
    simp [read_eq opened ran, errIoPending] at returned
  obtain ⟨⟨_, _⟩, returned, swapped⟩ := Option.map_eq_some_iff.mp read
  cases swapped
  exact waits rfl rfl rfl returned

abbrev UploadRun : List Answer → Exchange → Prop := Runs step Accepts initial

/-- A run in which no `Init` of the unread stream follows the final-chunk signal. -/
abbrev KeptRun : List Answer → Exchange → Prop :=
  Runs step (fun s input => s.Accepts input ∧ s.KeepsSignal input) initial

/-- Along every run in which no `Init` of the unread stream follows the final-chunk signal the
upload is faithful, and the next step leaves it so exactly when it keeps to that too. -/
theorem faithful_iff_keepsSignal {outputs : List Answer} {s : Exchange} (run : KeptRun outputs s) :
    s.Faithful ∧ ∀ input, s.Accepts input →
      ((∃ after emitted, step s input = some (after, emitted) ∧ after.Faithful) ↔
        s.KeepsSignal input) := by
  obtain ⟨consistent, endKept⟩ : Consistent s ∧ EndKept s := by
    refine run.invariant (fun s => Consistent s ∧ EndKept s) ?_ ?_
    · exact ⟨⟨rfl, rfl, rfl⟩, fun given => absurd given (by decide)⟩
    · grind [step_kept]
  refine ⟨consistent.faithful endKept, ?_⟩
  intro input accepted
  constructor
  · rintro ⟨after, emitted, stepped, faithful⟩ init
    subst init
    by_contra lost
    simp only [not_or, Bool.not_eq_false] at lost
    exact init_loses_signal lost.1 lost.2 stepped faithful
  · intro kept
    obtain ⟨_, _, stepped, consistent, endKept⟩ :=
      step_kept consistent endKept accepted kept
    simp [stepped, consistent.faithful, endKept]

def twoBytes : List Input :=
  [.init, .read 7 4 (.bytes []), .uploadWhenReady false (.bytes [104, 105]),
    .uploadWhenReady true (.bytes []), .read 8 4 (.bytes [])]

theorem faithful_iff_keepsSignal_twoBytes :
    ∃ outputs s, KeptRun outputs s ∧ s.network.delivered = [104, 105] ∧ s.finalGiven = true ∧
      s.Faithful := by
  have run : KeptRun _ _ := Runs.replay twoBytes .start (Option.eq_some_of_isSome (by decide))
  exact ⟨_, _, run, by decide, by decide, (faithful_iff_keepsSignal run).1⟩

/-- An empty body whose end is signalled before the network layer initialises the stream: the
first read waits for ever. -/
theorem endOfStream_lost_before_init :
    ∃ outputs s, UploadRun outputs s ∧ s.finalGiven = true ∧
      s.Accepts (.read 0 16 (.bytes [])) ∧
      (step s (.read 0 16 (.bytes []))).map Prod.snd = some [.readReturned errIoPending] ∧
      ¬ s.Faithful := by
  have run : UploadRun _ _ := Runs.replay [.uploadWhenReady true (.bytes []), .init] .start
    (Option.eq_some_of_isSome (by decide))
  refine ⟨_, _, run, by decide, by decide, by decide, ?_⟩
  intro faithful
  obtain ⟨_, stepped, -⟩ := (faithful.nextEnds (by decide)).2 0 16 (.bytes []) (by decide)
  have ended : _ = some [Answer.readReturned 0] := congrArg (Option.map Prod.snd) stepped
  exact absurd ended (by decide)

end Exchange

end ChromiumIos
