/-
Module: DawnShell.Proofs.SessionEffects
Layer: Proofs
Purpose: What each operation of a codec session does to its input side, for every platform.  Operations
  on the output side keep it (`KeepsInput`); queueing, EOS and flush each have one effect lemma that
  lists every way the call can end, with what it handed to the codec.  Later proofs cite these and
  never unfold an operation again.
Trusted boundary: none
Main exports: SameInput, KeepsInput, QueueEffect, EosEffect, FlushEffect,
  dscwCodecQueue_effect, dscwCodecQueueEos_effect, dscwCodecDequeue_keepsInput,
  dscwCodecFlush_effect
-/
import DawnShell.Proofs.SessionSteps

namespace DawnShell

open Wire

/-! ### Frame condition -/

/-- Two session objects that agree on everything the input side reads or counts. -/
structure SameInput (before after : CodecSession) : Prop where
  transcoder : after.transcoder = before.transcoder
  encoder : after.encoder = before.encoder
  inputEos : after.inputEos = before.inputEos
  haveEncoderPts : after.haveEncoderPts = before.haveEncoderPts
  lastEncoderPts : after.lastEncoderPts = before.lastEncoderPts
  inputRecords : after.inputRecords = before.inputRecords
  inputFrames : after.inputFrames = before.inputFrames
  inputBytes : after.inputBytes = before.inputBytes
  inputEosCount : after.inputEosCount = before.inputEosCount

/-- A session has the same input side as itself. -/
theorem SameInput.refl (session : CodecSession) : SameInput session session := by
  constructor <;> rfl

/-- Sessions with the same input side as a third have it among themselves. -/
theorem SameInput.trans {first second third : CodecSession} (one : SameInput first second)
    (two : SameInput second third) : SameInput first third := by
  constructor
  · rw [two.transcoder, one.transcoder]
  · rw [two.encoder, one.encoder]
  · rw [two.inputEos, one.inputEos]
  · rw [two.haveEncoderPts, one.haveEncoderPts]
  · rw [two.lastEncoderPts, one.lastEncoderPts]
  · rw [two.inputRecords, one.inputRecords]
  · rw [two.inputFrames, one.inputFrames]
  · rw [two.inputBytes, one.inputBytes]
  · rw [two.inputEosCount, one.inputEosCount]

/-- An operation that hands nothing to a codec, leaves the input side alone and returns only allowed
statuses. -/
def KeepsInput (allowed : Int32 → Prop) (session : CodecSession) (program : Platform Outcome) :
    Prop :=
  program.All fun log outcome =>
    handedInputs log = [] ∧ SameInput session outcome.session ∧ allowed outcome.status

section Rules

variable {allowed : Int32 → Prop} {session : CodecSession}

/-- An outcome with the same input side and an allowed status keeps the input. -/
theorem keepsInput_pure {outcome : Outcome} (same : SameInput session outcome.session)
    (status : allowed outcome.status) : KeepsInput allowed session (pure outcome) :=
  ⟨rfl, same, status⟩

/-- A call that is not `queueInputBuffer` can precede an operation that keeps the input side. -/
theorem keepsInput_call {request : Platform.Call}
    {rest : Platform.Answer request → Platform Outcome}
    (quiet : ∀ answer, handedInput ⟨request, answer⟩ = none)
    (after : ∀ answer, KeepsInput allowed session (rest answer)) :
    KeepsInput allowed session (Platform.call request >>= rest) := by
  rw [KeepsInput, Interaction.all_bind, Interaction.all_call]
  intro answer
  refine (after answer).mono fun log outcome holds => ?_
  rw [handedInputs_append, holds.1]
  exact ⟨by simp [handedInputs, quiet answer], holds.2⟩

/-- What keeps the input of one session keeps that of another with the same input side. -/
theorem KeepsInput.of_same {other : CodecSession} {program : Platform Outcome}
    (same : SameInput session other) (keeps : KeepsInput allowed other program) :
    KeepsInput allowed session program :=
  keeps.mono fun _ _ holds => ⟨holds.1, same.trans holds.2.1, holds.2.2⟩

/-- A program whose log hands nothing over can precede an operation that keeps the input side. -/
theorem keepsInput_bind {α : Type} {first : Platform α} {rest : α → Platform Outcome}
    (quiet : first.All fun log _ => handedInputs log = [])
    (after : ∀ value, KeepsInput allowed session (rest value)) :
    KeepsInput allowed session (first >>= rest) := by
  rw [KeepsInput, Interaction.all_bind]
  refine quiet.mono fun log value nothing => (after value).mono fun log' outcome holds => ?_
  rw [handedInputs_append, nothing, holds.1]
  exact ⟨rfl, holds.2⟩

end Rules

/-! ### Pumping -/

/-- A pump moves output from the decoder to the encoder and leaves the input side alone. -/
theorem PumpRun.sameInput {session : CodecSession} {log : Platform.Log} {outcome : Outcome}
    (run : PumpRun session log outcome) : SameInput session outcome.session := by
  obtain ⟨frames, same⟩ := run.changed
  rw [same]
  constructor <;> rfl

/-- Pumping a transcoder keeps its input and ends with one of the statuses of a pump. -/
theorem pumpTranscoder_keepsInput (session : CodecSession) (timeoutMs : UInt32) :
    KeepsInput PumpStatus session (pumpTranscoder session timeoutMs) :=
  (pumpAttempts_run timeoutMs 16 0 session).mono fun _ _ run =>
    ⟨run.handed, run.sameInput, run.pumpStatus⟩

/-- Measuring the latency hands the codec nothing. -/
theorem recordLatency_quiet (counters : LatencyCounters) (started : UInt64) :
    (recordLatency counters started).All fun log _ => handedInputs log = [] :=
  fun _ => rfl

/-! ### Output and control operations -/

section Output

variable {session : CodecSession}

/-- No constraint on the status. -/
def AnyStatus (_ : Int32) : Prop := True

/-- However often an image is asked for, the codec is handed nothing. -/
theorem acquireAttempts_quiet (reader : Option Handle) (deadline : UInt64) (polls : Nat) :
    (acquireAttempts reader deadline polls).All fun log _ => handedInputs log = [] := by
  induction polls with
  | zero => exact rfl
  | succ polls ih =>
      rw [acquireAttempts, Interaction.all_bind, Interaction.all_call]
      intro acquired
      split
      · exact rfl
      split
      · exact rfl
      rw [Interaction.all_bind, Interaction.all_call]
      intro slept
      rw [Interaction.all_bind, Interaction.all_call]
      intro now
      split
      · exact ih.mono fun log _ nothing => nothing
      · exact rfl

/-- Acquiring an image hands the codec nothing. -/
theorem acquireImage_quiet (timeoutMs : UInt32) :
    (acquireImage session timeoutMs).All fun log _ => handedInputs log = [] := by
  rw [acquireImage, Interaction.all_bind, Interaction.all_call]
  intro now
  exact (acquireAttempts_quiet _ _ _).mono fun log _ nothing => nothing

/-- Delivering a pending image keeps the input. -/
theorem outputPendingImage_keepsInput (timeoutMs : UInt32) (capacity : Nat) :
    KeepsInput AnyStatus session (outputPendingImage session timeoutMs capacity) := by
  rw [outputPendingImage]
  refine keepsInput_bind (acquireImage_quiet timeoutMs) fun acquired => ?_
  split
  · exact keepsInput_pure (.refl session) trivial
  refine keepsInput_call (fun _ => rfl) fun deleted => ?_
  split
  · exact keepsInput_pure (.refl session) trivial
  · refine keepsInput_pure ?_ trivial
    constructor <;> rfl

/-- Counting an output leaves the input side alone. -/
theorem sameInput_deliverOutput (info : BufferInfo) :
    SameInput session (session.deliverOutput info) := by
  unfold CodecSession.deliverOutput
  dsimp only
  split <;> split <;> (try split) <;> constructor <;> rfl

/-- Delivering an output buffer keeps the input. -/
theorem copyOutputBuffer_keepsInput (codec : Option Handle) (index : Nat) (info : BufferInfo)
    (capacity : Nat) :
    KeepsInput AnyStatus session (copyOutputBuffer session codec index info capacity) := by
  rw [copyOutputBuffer]
  split
  · exact keepsInput_call (fun _ => rfl) fun _ => keepsInput_pure (.refl session) trivial
  refine keepsInput_call (fun _ => rfl) fun source => ?_
  dsimp only
  split
  · exact keepsInput_call (fun _ => rfl) fun _ => keepsInput_pure (.refl session) trivial
  · exact keepsInput_call (fun _ => rfl) fun _ =>
      keepsInput_pure (sameInput_deliverOutput info) trivial

/-- Reporting a format hands the codec nothing. -/
theorem formatRecord_quiet (codec : Option Handle) (capacity : Nat) :
    (formatRecord session codec capacity).All fun log _ => handedInputs log = [] := by
  rw [formatRecord]
  split
  · exact rfl
  · exact fun _ => rfl

/-- In all its turns the output loop keeps the input: nothing is queued, and no end of stream is marked.
-/
theorem dequeueAttempts_keepsInput (codec : Option Handle) (timeoutMs : UInt32) (capacity : Nat)
    (remaining : Nat) (session : CodecSession) :
    KeepsInput AnyStatus session (dequeueAttempts codec timeoutMs capacity remaining session) := by
  induction remaining generalizing session with
  | zero => exact keepsInput_pure (.refl session) trivial
  | succ remaining ih =>
      rw [dequeueAttempts]
      refine keepsInput_call (fun _ => rfl) fun dequeued => ?_
      dsimp only
      split
      · exact keepsInput_pure (.refl session) trivial
      split
      · refine keepsInput_bind (formatRecord_quiet codec capacity) fun record => ?_
        split
        · exact keepsInput_pure (.refl session) trivial
        · refine keepsInput_pure ?_ trivial
          constructor <;> rfl
      split
      · exact ih session
      split
      · refine keepsInput_call (fun _ => rfl) fun released => ?_
        split
        · refine keepsInput_pure ?_ trivial
          constructor <;> rfl
        · refine (outputPendingImage_keepsInput timeoutMs capacity).of_same ?_
          constructor <;> rfl
      · exact copyOutputBuffer_keepsInput codec _ _ capacity

/-- Asking the codec for output keeps the input, on each of the three paths. -/
theorem dequeueInternal_keepsInput (timeoutMs : UInt32) (capacity : Nat) :
    KeepsInput AnyStatus session (dequeueInternal session timeoutMs capacity) := by
  rw [dequeueInternal]
  split
  · exact keepsInput_pure (.refl session) trivial
  split
  · exact outputPendingImage_keepsInput timeoutMs capacity
  split
  · rw [KeepsInput, Interaction.all_bind]
    refine (pumpTranscoder_keepsInput session timeoutMs).mono fun log pumped holds => ?_
    obtain ⟨nothing, same, _⟩ := holds
    split
    · exact ⟨by rw [List.append_nil]; exact nothing, same, trivial⟩
    · refine (dequeueAttempts_keepsInput _ _ _ _ pumped.session).mono
        fun log' outcome later => ?_
      rw [handedInputs_append, nothing, later.1]
      exact ⟨rfl, same.trans later.2.1, trivial⟩
  · exact dequeueAttempts_keepsInput session.codec timeoutMs capacity 3 session

/-- Counting an error leaves the input side alone. -/
theorem sameInput_countError (status : Int32) : SameInput session (session.countError status) := by
  unfold CodecSession.countError
  split <;> constructor <;> rfl

/-- A `DEQUEUE` keeps the input of its session, whatever comes of it. -/
theorem dscwCodecDequeue_keepsInput (timeoutMs : UInt32) (capacity : Nat) :
    KeepsInput AnyStatus session (dscwCodecDequeue session timeoutMs capacity) := by
  rw [dscwCodecDequeue]
  refine keepsInput_call (fun _ => rfl) fun started => ?_
  rw [KeepsInput, Interaction.all_bind]
  refine (dequeueInternal_keepsInput timeoutMs capacity).mono fun log result holds => ?_
  obtain ⟨nothing, same, _⟩ := holds
  rw [Interaction.all_bind]
  refine (recordLatency_quiet _ _).mono fun log' latency silent => ?_
  split
  · refine ⟨by simp [nothing, silent], same.trans ?_, trivial⟩
    constructor <;> rfl
  · refine ⟨by simp [nothing, silent], (same.trans ?_).trans (sameInput_countError _), trivial⟩
    constructor <;> rfl

end Output

/-! ### Input operations -/

/-- The log reads the clock and does nothing else. -/
def OnlyClock (log : Platform.Log) : Prop :=
  ∀ exchange ∈ log, exchange.call = .monotonicNs

/-- Asking for the time hands the codec nothing. -/
theorem OnlyClock.handedInputs_eq {log : Platform.Log} (clock : OnlyClock log) :
    handedInputs log = [] := by
  refine List.filterMap_eq_nil_iff.mpr fun exchange member => ?_
  have call := clock exchange member
  obtain ⟨request, answer⟩ := exchange
  subst call
  rfl

/-- What `dscw_codec_queue` can do, by how far it gets. -/
inductive QueueEffect (session : CodecSession) (data : Bytes) (presentationTimeUs : UInt64)
    (flags : UInt32) (log : Platform.Log) (after : CodecSession) (status : Int32) : Prop where
  /-- The input is closed. -/
  | closed (eos : session.inputEos = true) (clock : OnlyClock log) (same : SameInput session after)
      (result : status = codecErrorSession)
  /-- The record is rejected, the pump fails or no input buffer is free. -/
  | rejected (opened : session.inputEos = false) (nothing : handedInputs log = [])
      (same : SameInput session after) (result : status ≠ codecOk)
  /-- The record does not fit: the input buffer goes back empty. -/
  | bounced (opened : session.inputEos = false) (answer : MediaStatus)
      (handed : handedInputs log = [⟨[], presentationTimeUs, 0, answer⟩])
      (same : SameInput session after) (result : status = codecErrorLimit)
  /-- The codec refuses the record. -/
  | refused (opened : session.inputEos = false) (answer : MediaStatus) (failed : answer ≠ amediaOk)
      (handed : handedInputs log =
        [⟨data, presentationTimeUs, flags &&& bufferFlagCodecConfig, answer⟩])
      (same : SameInput session after) (result : status = codecErrorCodec)
  /-- The codec takes the record. -/
  | accepted (opened : session.inputEos = false) (nonempty : data ≠ [])
      (known : flags &&& ~~~bufferFlagCodecConfig = 0)
      (increasing : session.encoder = true → session.transcoder = false →
        flags &&& bufferFlagCodecConfig = 0 → session.haveEncoderPts = true →
        session.lastEncoderPts < presentationTimeUs)
      (handed : handedInputs log =
        [⟨data, presentationTimeUs, flags &&& bufferFlagCodecConfig, amediaOk⟩])
      (same : SameInput (session.acceptInput data presentationTimeUs flags) after)
      (result : PumpStatus status)

/-- Steps around a queue that hand nothing over and leave the input side alone change nothing in its
effect. -/
theorem QueueEffect.frame {session middle after : CodecSession} {data : Bytes}
    {presentationTimeUs : UInt64} {flags : UInt32} {first log last : Platform.Log} {status : Int32}
    (effect : QueueEffect session data presentationTimeUs flags log middle status)
    (firstClock : OnlyClock first) (lastClock : OnlyClock last) (same : SameInput middle after) :
    QueueEffect session data presentationTimeUs flags (first ++ log ++ last) after status := by
  have handed : handedInputs (first ++ log ++ last) = handedInputs log := by
    rw [handedInputs_append, handedInputs_append, firstClock.handedInputs_eq,
      lastClock.handedInputs_eq, List.nil_append, List.append_nil]
  cases effect with
  | closed eos clock kept result =>
      refine .closed eos ?_ (kept.trans same) result
      intro exchange member
      rcases List.mem_append.mp member with member | member
      · rcases List.mem_append.mp member with member | member
        · exact firstClock exchange member
        · exact clock exchange member
      · exact lastClock exchange member
  | rejected opened nothing kept result =>
      exact .rejected opened (handed.trans nothing) (kept.trans same) result
  | bounced opened answer given kept result =>
      exact .bounced opened answer (handed.trans given) (kept.trans same) result
  | refused opened answer failed given kept result =>
      exact .refused opened answer failed (handed.trans given) (kept.trans same) result
  | accepted opened nonempty known increasing given kept result =>
      exact .accepted opened nonempty known increasing (handed.trans given) (kept.trans same) result

/-- Counting an accepted input depends on the input side alone. -/
theorem sameInput_acceptInput {session other : CodecSession} (same : SameInput session other)
    (data : Bytes) (presentationTimeUs : UInt64) (flags : UInt32) :
    SameInput (session.acceptInput data presentationTimeUs flags)
      (other.acceptInput data presentationTimeUs flags) := by
  obtain ⟨transcoder, encoder, inputEos, have', last, records, frames, bytes, eos⟩ := same
  simp only [CodecSession.acceptInput, transcoder, encoder]
  split
  · split <;> constructor <;> simp [*]
  · constructor <;> simp [*]

/-- Queueing hands the codec its data once, or not at all; the session changes only if the codec has
taken them. -/
theorem queueInternal_effect (session : CodecSession) (data : Bytes) (presentationTimeUs : UInt64)
    (flags : UInt32) :
    (queueInternal session data presentationTimeUs flags).All fun log outcome =>
      QueueEffect session data presentationTimeUs flags log outcome.session outcome.status := by
  apply (queueInternal_run session data presentationTimeUs flags).mono
  intro log outcome run
  cases run with
  | closed eos => exact .closed eos (by simp [OnlyClock]) (.refl session) rfl
  | invalid opened =>
      exact .rejected opened rfl (.refl session) (show codecErrorProtocol ≠ codecOk by decide)
  | stuck opened pumping failed =>
      have pump := pumping.of_all (pumpIfTranscoder_run session)
      exact .rejected opened pump.handed pump.sameInput failed
  | again opened pumping index =>
      have pump := pumping.of_all (pumpIfTranscoder_run session)
      exact .rejected opened (by simp [pump.handed, handedInput]) pump.sameInput
        (show codecAgain ≠ codecOk by decide)
  | bounced opened pumping index destination answer =>
      have pump := pumping.of_all (pumpIfTranscoder_run session)
      exact .bounced opened answer (by simp [pump.handed, handedInput]) pump.sameInput rfl
  | refused opened pumping index destination answer failed =>
      have pump := pumping.of_all (pumpIfTranscoder_run session)
      exact .refused opened answer failed (by simp [pump.handed, handedInput]) pump.sameInput rfl
  | accepted opened nonempty known increasing pumping index destination pumpingOn same status =>
      have pump := pumping.of_all (pumpIfTranscoder_run session)
      have pumpOn := pumpingOn.of_all (pumpIfTranscoder_run _)
      refine .accepted opened nonempty known increasing ?_ ?_ ?_
      · simp [pump.handed, pumpOn.handed, handedInput]
      · rw [same]
        exact (sameInput_acceptInput pump.sameInput data presentationTimeUs flags).trans
          pumpOn.sameInput
      · rw [status]
        exact pumpOn.pumpStatus

/-- A `QUEUE` is refused before anything is handed over, or its one hand-over decides both the status
and the session. -/
theorem dscwCodecQueue_effect (session : CodecSession) (data : Bytes) (presentationTimeUs : UInt64)
    (flags : UInt32) :
    (dscwCodecQueue session data presentationTimeUs flags).All fun log outcome =>
      QueueEffect session data presentationTimeUs flags log outcome.session outcome.status := by
  rw [dscwCodecQueue, Interaction.all_bind, Interaction.all_call]
  intro started
  rw [Interaction.all_bind]
  refine (queueInternal_effect session data presentationTimeUs flags).mono
    fun log result effect => ?_
  rw [Interaction.all_bind]
  intro now
  have clock : ∀ answer, OnlyClock [⟨.monotonicNs, answer⟩] := by simp [OnlyClock]
  split
  · refine QueueEffect.frame effect (clock started) (clock now) ?_
    constructor <;> rfl
  · refine QueueEffect.frame effect (clock started) (clock now)
      (SameInput.trans ?_ (sameInput_countError _))
    constructor <;> rfl

/-- What `dscw_codec_queue_eos` can do. -/
inductive EosEffect (session : CodecSession) (presentationTimeUs : UInt64) (log : Platform.Log)
    (after : CodecSession) (status : Int32) : Prop where
  /-- The input is closed already. -/
  | closed (eos : session.inputEos = true) (clock : OnlyClock log) (same : SameInput session after)
      (result : status = codecErrorSession)
  /-- The pump fails or no input buffer is free. -/
  | rejected (opened : session.inputEos = false) (nothing : handedInputs log = [])
      (same : SameInput session after) (result : status ≠ codecOk)
  /-- The codec refuses the marker. -/
  | refused (opened : session.inputEos = false) (answer : MediaStatus) (failed : answer ≠ amediaOk)
      (handed : handedInputs log = [⟨[], presentationTimeUs, bufferFlagEndOfStream, answer⟩])
      (same : SameInput session after) (result : status = codecErrorCodec)
  /-- The codec takes the marker. -/
  | accepted (opened : session.inputEos = false)
      (handed : handedInputs log = [⟨[], presentationTimeUs, bufferFlagEndOfStream, amediaOk⟩])
      (same : SameInput { session with inputEos := true, inputEosCount := session.inputEosCount + 1 }
        after)
      (result : PumpStatus status)

/-- An EOS is refused, or known to be on its way, or handed over once, and this decides both the status
and the session. -/
theorem dscwCodecQueueEos_effect (session : CodecSession) (presentationTimeUs : UInt64) :
    (dscwCodecQueueEos session presentationTimeUs).All fun log outcome =>
      EosEffect session presentationTimeUs log outcome.session outcome.status := by
  apply (dscwCodecQueueEos_run session presentationTimeUs).mono
  intro log outcome run
  cases run with
  | closed started eos =>
      refine .closed eos (by simp [OnlyClock]) ?_ rfl
      constructor <;> rfl
  | stuck started opened pumping failed =>
      have pump := pumping.of_all (pumpIfTranscoder_run session)
      exact .rejected opened (by simp [pump.handed, handedInput]) pump.sameInput failed
  | again started now opened pumping index latency =>
      have pump := pumping.of_all (pumpIfTranscoder_run session)
      refine .rejected opened (by simp [pump.handed, handedInput]) (pump.sameInput.trans ?_)
        (show codecAgain ≠ codecOk by decide)
      constructor <;> rfl
  | refused started now opened pumping index latency answer failed =>
      have pump := pumping.of_all (pumpIfTranscoder_run session)
      refine .refused opened answer failed (by simp [pump.handed, handedInput])
        (pump.sameInput.trans ?_) rfl
      constructor <;> rfl
  | accepted started now opened pumping index latency pumpingOn =>
      have pump := pumping.of_all (pumpIfTranscoder_run session)
      have pumpOn := pumpingOn.of_all (pumpIfTranscoder_run _)
      refine .accepted opened (by simp [pump.handed, pumpOn.handed, handedInput])
        (SameInput.trans ?_ pumpOn.sameInput) pumpOn.pumpStatus
      obtain ⟨transcoder, encoder, _, have', last, records, frames, bytes, eosCount⟩ :=
        pump.sameInput
      constructor <;> simp [*]

/-- What `dscw_codec_flush` can do. -/
inductive FlushEffect (session : CodecSession) (log : Platform.Log) (after : CodecSession)
    (status : Int32) : Prop where
  | failed (nothing : handedInputs log = []) (same : SameInput session after)
      (result : status = codecErrorCodec)
  | flushed (nothing : handedInputs log = [])
      (same : SameInput { session with inputEos := false, haveEncoderPts := false } after)
      (result : status = codecOk)

theorem flushCodecs_quiet (session : CodecSession) :
    (flushCodecs session).All fun log _ => handedInputs log = [] := by
  rw [flushCodecs]
  split
  · rw [Interaction.all_bind, Interaction.all_call]
    intro status
    split
    · exact fun _ => rfl
    · exact rfl
  · exact fun _ => rfl

/-- Draining the images of a reader hands the codec nothing. -/
theorem drainImages_quiet (reader : Option Handle) :
    (drainImages reader).All fun log _ => handedInputs log = [] := by
  cases reader with
  | none => exact rfl
  | some reader => exact fun _ => rfl

/-- A flush hands over nothing and opens the input again when it succeeds. -/
theorem dscwCodecFlush_effect (session : CodecSession) :
    (dscwCodecFlush session).All fun log outcome =>
      FlushEffect session log outcome.session outcome.status := by
  rw [dscwCodecFlush, Interaction.all_bind]
  refine (flushCodecs_quiet session).mono fun log status nothing => ?_
  split
  · refine .failed (by simpa using nothing) ?_ rfl
    constructor <;> rfl
  · rw [Interaction.all_bind]
    refine (drainImages_quiet _).mono fun log' _ silent => ?_
    refine .flushed (by simp [nothing, silent]) ?_ rfl
    constructor <;> rfl

end DawnShell
