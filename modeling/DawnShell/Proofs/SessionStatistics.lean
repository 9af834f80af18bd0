/-
Module: DawnShell.Proofs.SessionStatistics
Layer: Proofs
Purpose: What the statistics of a session count.  Every call adds to each counter what the call has
  delivered, had accepted or failed with, as long as no rendered decoder buffer is marked, no pump
  fails below an EOS and no key frame request fails in the codec; over whole runs the counters are
  then the totals.  A marked image breaks this: its end of stream is delivered and not counted.
Trusted boundary: none
Main exports: Counter, CodecSession.counter, StatOp, StatCall, StatCall.count, total, StatStep,
  CountsRegularly, session_statistics, marked_image_not_counted
-/
import DawnShell.Lib.Observer
import DawnShell.Lib.Transition
import DawnShell.Proofs.Framing
import DawnShell.Proofs.PendingImage
import DawnShell.Proofs.ReplyBounds
import DawnShell.Proofs.SessionConsumption
import DawnShell.Proofs.SessionInput

namespace DawnShell

open Wire Interaction Transition

/-! ### Counters -/

/-- The counters of the statistics that count records, data, ends of stream and failures. -/
inductive Counter where
  | outputRecords
  | outputFrames
  | outputBytes
  | outputEos
  | inputRecords
  | inputFrames
  | inputBytes
  | inputEos
  | errors
deriving DecidableEq, Repr

/-- The field of the session that holds a counter. -/
def CodecSession.counter (session : CodecSession) : Counter → UInt64
  | .outputRecords => session.outputRecords
  | .outputFrames => session.outputFrames
  | .outputBytes => session.outputBytes
  | .outputEos => session.outputEosCount
  | .inputRecords => session.inputRecords
  | .inputFrames => session.inputFrames
  | .inputBytes => session.inputBytes
  | .inputEos => session.inputEosCount
  | .errors => session.errors

/-- The flags of an output record. -/
def recordFlags (record : Bytes) : UInt32 := getU32 record 8

/-- What an output record adds to a counter. -/
def recordCount (record : Bytes) : Counter → Nat
  | .outputRecords => if recordData record = [] then 0 else 1
  | .outputFrames =>
      if recordData record = [] ∨ recordFlags record &&& bufferFlagCodecConfig ≠ 0 then 0 else 1
  | .outputBytes => (recordData record).length
  | .outputEos => if recordFlags record &&& bufferFlagEndOfStream = 0 then 0 else 1
  | _ => 0

/-- What an input buffer that was handed to the codec adds to a counter. -/
def inputCount (input : HandedInput) : Counter → Nat
  | .inputRecords => if input.accepted && !input.data.isEmpty then 1 else 0
  | .inputFrames => if input.accepted && input.isFrame then 1 else 0
  | .inputBytes => if input.accepted then input.data.length else 0
  | .inputEos => if input.accepted && input.isEos then 1 else 0
  | _ => 0

/-- What a status adds to a counter. -/
def failureCount (status : Int32) : Counter → Nat
  | .errors => if status < codecOk then 1 else 0
  | _ => 0

/-! ### Calls -/

/-- The calls on a session. -/
inductive StatOp where
  | operate (op : SessionOp)
  | requestKeyframe
deriving DecidableEq, Repr

def StatOp.perform : StatOp → CodecSession → Platform Outcome
  | .operate op, session => op.perform session
  | .requestKeyframe, session => dscwCodecRequestKeyframe session

/-- One call: what was called, what it exchanged with the platform, what it returned. -/
structure StatCall where
  op : StatOp
  log : Platform.Log
  outcome : Outcome

namespace StatCall

/-- The output record a call has returned. -/
def delivered (call : StatCall) : List Bytes :=
  match call.op with
  | .operate (.dequeue ..) => if call.outcome.status = codecOk then [call.outcome.output] else []
  | _ => []

/-- The failures that are counted: those of queue, EOS, dequeue and flush. -/
def failed (call : StatCall) : List Int32 :=
  match call.op with
  | .operate _ => [call.outcome.status]
  | .requestKeyframe => []

/-- What a call adds to a counter: what it delivered, what the codec accepted, what it failed with. -/
def count (call : StatCall) (counter : Counter) : Nat :=
  (call.delivered.map fun record => recordCount record counter).sum +
    ((handedInputs call.log).map fun input => inputCount input counter).sum +
    (call.failed.map fun status => failureCount status counter).sum

end StatCall

/-- What the calls of a run add to a counter. -/
def total (calls : List StatCall) (counter : Counter) : Nat :=
  (calls.map fun call => call.count counter).sum

/-- A session after one more call. -/
structure StatStep (before : CodecSession) (call : StatCall) (after : CodecSession) : Prop where
  run : (call.op.perform before).Runs call.log call.outcome
  session : after = call.outcome.session

/-- The size of a buffer that was dequeued is not negative. -/
def sizeNonnegative : Exchange Platform.Call Platform.Answer → Bool
  | ⟨.dequeueOutputBuffer _ _, answer⟩ => decide (answer.1 < 0) || decide (0 ≤ answer.2.size)
  | _ => true

/-- The exchange is not one of those that a counter misses: a decoder buffer with data that is marked
as configuration or end of stream, a step of the pump that fails below an EOS, a key frame request
that fails in the codec. -/
def countsRegularlyAt (session : CodecSession) : StatOp →
    Exchange Platform.Call Platform.Answer → Bool
  | .operate (.dequeue ..), ⟨.dequeueOutputBuffer _ _, answer⟩ =>
      session.encoder || session.transcoder || decide (answer.1 < 0) ||
        decide (answer.2.size ≤ 0) ||
        answer.2.flags &&& (bufferFlagCodecConfig ||| bufferFlagEndOfStream) == 0
  | .operate (.queueEos _), ⟨.releaseOutputBuffer .., status⟩ => status == amediaOk
  | .operate (.queueEos _), ⟨.optionalSymbol .signalInputEos, available⟩ => available
  | .operate (.queueEos _), ⟨.signalEndOfInputStream _, status⟩ => status == amediaOk
  | .requestKeyframe, ⟨.setParametersRequestSync _, status⟩ => status == amediaOk
  | _, _ => true

/-- Every exchange of the call has a buffer size that is not negative. -/
def SizesNonnegative (_ : CodecSession) (call : StatCall) : Prop :=
  ∀ exchange ∈ call.log, sizeNonnegative exchange = true

def CountsRegularly (before : CodecSession) (call : StatCall) : Prop :=
  ∀ exchange ∈ call.log, countsRegularlyAt before call.op exchange = true

/-- A session as it is created: nothing counted, no image pending. -/
structure FreshSession (session : CodecSession) : Prop where
  zero : ∀ counter, session.counter counter = 0
  pending : session.pendingImage = false

/-! ### What an operation adds -/

/-- The pending image carries no mark that its delivery would have to count. -/
def PlainPending (session : CodecSession) : Prop :=
  session.pendingImage = true → session.pendingImageFlags &&&
    (bufferFlagCodecConfig ||| bufferFlagEndOfStream) = 0

/-- The counters go up by `count`, and the pending image stays plain. -/
structure Adds (count : Counter → Nat) (session after : CodecSession) : Prop where
  counts : ∀ counter, after.counter counter = session.counter counter + UInt64.ofNat (count counter)
  plain : PlainPending session → PlainPending after

/-- What the input buffers of a log add to a counter. -/
def handedCount (log : Platform.Log) (counter : Counter) : Nat :=
  ((handedInputs log).map fun input => inputCount input counter).sum

section Adding

variable {session middle after : CodecSession} {data : Bytes} {presentationTimeUs : UInt64}
  {flags : UInt32} {first second : Counter → Nat}

/-- A step that leaves the counters alone adds nothing, if no plain image becomes another. -/
theorem adds_nothing (same : ∀ counter, after.counter counter = session.counter counter)
    (plain : PlainPending session → PlainPending after) : Adds (fun _ => 0) session after := by
  refine ⟨fun counter => ?_, plain⟩
  rw [same]
  exact (UInt64.add_zero _).symm

theorem Adds.refl (session : CodecSession) : Adds (fun _ => 0) session session :=
  adds_nothing (fun _ => rfl) id

theorem Adds.trans (one : Adds first session middle) (two : Adds second middle after) :
    Adds (fun counter => first counter + second counter) session after := by
  refine ⟨fun counter => ?_, fun plain => two.plain (one.plain plain)⟩
  rw [two.counts, one.counts, UInt64.ofNat_add, UInt64.add_assoc]

theorem Adds.congr (adds : Adds first session after) (same : ∀ counter, first counter = second counter) :
    Adds second session after := by
  refine ⟨fun counter => ?_, adds.plain⟩
  rw [← same counter]
  exact adds.counts counter

theorem Adds.followed (adds : Adds first session middle)
    (same : ∀ counter, after.counter counter = middle.counter counter)
    (plain : PlainPending middle → PlainPending after) : Adds first session after :=
  (adds.trans (adds_nothing same plain)).congr fun _ => Nat.add_zero _

theorem Adds.silent {log : Platform.Log} (adds : Adds (fun _ => 0) session after)
    (nothing : handedInputs log = []) : Adds (handedCount log) session after := by
  refine adds.congr fun counter => ?_
  rw [handedCount, nothing]
  rfl

theorem Adds.handed {log : Platform.Log} (adds : Adds first session after) (input : HandedInput)
    (handed : handedInputs log = [input]) (same : ∀ counter, first counter = inputCount input counter) :
    Adds (handedCount log) session after := by
  refine adds.congr fun counter => ?_
  rw [handedCount, handed, same counter]
  simp

/-- `session->errors++` before a negative status is returned. -/
theorem adds_error {status : Int32} (negative : status < codecOk) :
    Adds (failureCount status) session { session with errors := session.errors + 1 } := by
  refine ⟨fun counter => ?_, id⟩
  cases counter <;> simp [CodecSession.counter, failureCount, negative]

/-- A status that is not negative counts as no failure. -/
theorem failureCount_of_not_negative {status : Int32} (other : ¬status < codecOk)
    (counter : Counter) : failureCount status counter = 0 := by
  cases counter <;> simp [failureCount, other]

/-- Counting a status adds one to the errors when it is negative, and nothing to any other counter. -/
theorem adds_countError (status : Int32) :
    Adds (failureCount status) session (session.countError status) := by
  rw [CodecSession.countError]
  split
  next negative => exact adds_error negative
  next other => exact (Adds.refl session).congr fun counter =>
      (failureCount_of_not_negative other counter).symm

/-- The accounting of an accepted packet: one record and its bytes, and one frame unless it is
configuration. -/
theorem adds_acceptInput (nonempty : data ≠ []) :
    Adds (inputCount ⟨data, presentationTimeUs, flags &&& bufferFlagCodecConfig, amediaOk⟩) session
      (session.acceptInput data presentationTimeUs flags) := by
  have noEos : flags &&& bufferFlagCodecConfig &&& bufferFlagEndOfStream = 0 := by
    rw [UInt32.and_assoc]
    exact UInt32.and_zero
  have config : flags &&& bufferFlagCodecConfig &&& bufferFlagCodecConfig =
      flags &&& bufferFlagCodecConfig := by
    rw [UInt32.and_assoc, UInt32.and_self]
  constructor
  · intro counter
    unfold CodecSession.acceptInput
    dsimp only
    split
    next frame =>
      split <;> cases counter <;>
        simp [CodecSession.counter, inputCount, HandedInput.accepted, HandedInput.isFrame,
          HandedInput.isEos, nonempty, frame]
    next other =>
      cases counter <;>
        simp [CodecSession.counter, inputCount, HandedInput.accepted, HandedInput.isFrame,
          HandedInput.isEos, nonempty, noEos, config, other]
  · unfold CodecSession.acceptInput
    dsimp only
    split
    · split <;> exact id
    · exact id

theorem PumpRun.adds {log : Platform.Log} {outcome : Outcome} (run : PumpRun session log outcome) :
    Adds (fun _ => 0) session outcome.session := by
  obtain ⟨frames, same⟩ := run.changed
  rw [same]
  refine adds_nothing (fun counter => ?_) id
  cases counter <;> rfl

/-- Queueing adds what the codec was handed and has accepted, whether an error follows or not. -/
theorem queueInternal_adds (session : CodecSession) (data : Bytes) (presentationTimeUs : UInt64)
    (flags : UInt32) :
    (queueInternal session data presentationTimeUs flags).All fun log outcome =>
      Adds (handedCount log) session outcome.session := by
  apply (queueInternal_run session data presentationTimeUs flags).mono
  intro log outcome run
  cases run with
  | closed _ | invalid _ => exact Adds.refl session
  | stuck _ pumping _ =>
      have pump := pumping.of_all (pumpIfTranscoder_run session)
      exact pump.adds.silent pump.handed
  | again _ pumping index =>
      have pump := pumping.of_all (pumpIfTranscoder_run session)
      exact pump.adds.silent (by simp [pump.handed, handedInput])
  | bounced _ pumping index destination answer =>
      have pump := pumping.of_all (pumpIfTranscoder_run session)
      refine pump.adds.handed ⟨[], presentationTimeUs, 0, answer⟩
        (by simp [pump.handed, handedInput]) fun counter => ?_
      cases counter <;> simp [inputCount, HandedInput.isFrame, HandedInput.isEos]
  | refused _ pumping index destination answer failed =>
      have pump := pumping.of_all (pumpIfTranscoder_run session)
      refine pump.adds.handed ⟨data, presentationTimeUs, flags &&& bufferFlagCodecConfig, answer⟩
        (by simp [pump.handed, handedInput]) fun counter => ?_
      cases counter <;> simp [inputCount, HandedInput.accepted, failed]
  | accepted _ nonempty _ _ pumping index destination pumpingOn same _ =>
      have pump := pumping.of_all (pumpIfTranscoder_run session)
      have pumpOn := pumpingOn.of_all (pumpIfTranscoder_run _)
      have accepted := (pump.adds.trans (adds_acceptInput nonempty)).trans pumpOn.adds
      rw [same]
      refine accepted.handed ⟨data, presentationTimeUs, flags &&& bufferFlagCodecConfig, amediaOk⟩
        (by simp [pump.handed, pumpOn.handed, handedInput]) fun counter => ?_
      rw [Nat.zero_add, Nat.add_zero]

/-- A `QUEUE` adds what the codec has accepted, and one error when its status is negative. -/
theorem dscwCodecQueue_adds (session : CodecSession) (data : Bytes) (presentationTimeUs : UInt64)
    (flags : UInt32) :
    (dscwCodecQueue session data presentationTimeUs flags).All fun log outcome =>
      Adds (fun counter => handedCount log counter + failureCount outcome.status counter) session
        outcome.session := by
  rw [dscwCodecQueue, all_bind, all_call]
  intro started
  rw [all_bind]
  refine (queueInternal_adds session data presentationTimeUs flags).mono fun log result adds => ?_
  rw [all_bind]
  refine (recordLatency_quiet _ _).mono fun clock latency silent => ?_
  have same : ∀ counter, handedCount log counter =
      handedCount ([⟨.monotonicNs, started⟩] ++ (log ++ (clock ++ []))) counter := by
    simp [handedCount, handedInput, silent]
  split
  next again =>
    have tried : Adds (handedCount log) session
        { result.session with
          inputLatency := latency
          inputAgain := result.session.inputAgain + 1 } :=
      adds.followed (fun counter => by cases counter <;> rfl) id
    refine all_pure.mpr (tried.congr fun counter => ?_)
    rw [same counter, again]
    cases counter <;> rfl
  next =>
    have timed : Adds (handedCount log) session { result.session with inputLatency := latency } :=
      adds.followed (fun counter => by cases counter <;> rfl) id
    refine all_pure.mpr ((timed.trans (adds_countError result.status)).congr fun counter => ?_)
    rw [same counter]

/-- A pump that fails below an EOS is what the condition on regular counting leaves out. -/
theorem failsPump_irregular {origin : CodecSession} {marked : UInt64}
    {exchange : Exchange Platform.Call Platform.Answer} (fails : failsPump exchange = true) :
    countsRegularlyAt origin (.operate (.queueEos marked)) exchange = false := by
  rw [failsPump.eq_def] at fails
  split at fails
  · exact (Bool.not_eq_true' _).mp fails
  · exact (Bool.not_eq_true' _).mp fails
  · exact (Bool.not_eq_true' _).mp fails
  · cases fails

/-- A pump whose steps all succeed succeeds. -/
theorem PumpRun.succeeds {log : Platform.Log} {outcome : Outcome} (run : PumpRun session log outcome)
    {origin : CodecSession} {marked : UInt64}
    (regular : ∀ exchange ∈ log,
      countsRegularlyAt origin (.operate (.queueEos marked)) exchange = true) :
    outcome.status = codecOk := by
  rcases run.status with ok | ⟨-, exchange, member, fails⟩
  · exact ok
  · have regularly := regular exchange member
    rw [failsPump_irregular fails] at regularly
    cases regularly

/-- An EOS that is accepted counts once, with no record and no data. -/
theorem adds_queuedEos (presentationTimeUs : UInt64) :
    Adds (inputCount ⟨[], presentationTimeUs, bufferFlagEndOfStream, amediaOk⟩) session
      { session with inputEos := true, inputEosCount := session.inputEosCount + 1 } := by
  refine ⟨fun counter => ?_, id⟩
  cases counter <;>
    simp [CodecSession.counter, inputCount, HandedInput.accepted, HandedInput.isFrame,
      HandedInput.isEos, bufferFlagEndOfStream]

/-- When no pump fails below it, an EOS adds what the codec has accepted and one error for a negative
status. -/
theorem dscwCodecQueueEos_adds (session : CodecSession) (presentationTimeUs : UInt64) :
    (dscwCodecQueueEos session presentationTimeUs).All fun log outcome =>
      (∀ exchange ∈ log,
        countsRegularlyAt session (.operate (.queueEos presentationTimeUs)) exchange = true) →
      Adds (fun counter => handedCount log counter + failureCount outcome.status counter) session
        outcome.session := by
  apply (dscwCodecQueueEos_run session presentationTimeUs).mono
  intro log outcome run regular
  cases run with
  | closed started eos =>
      refine (adds_error (show codecErrorSession < codecOk by decide)).congr fun counter => ?_
      rw [show handedCount _ counter = 0 from rfl, Nat.zero_add]
  | stuck started opened pumping failed =>
      have pump := pumping.of_all (pumpIfTranscoder_run session)
      exact absurd (pump.succeeds fun exchange member => regular exchange (by simp [member])) failed
  | @again _ pumped started now opened pumping index latency =>
      have pump := pumping.of_all (pumpIfTranscoder_run session)
      have tried : Adds (fun _ => 0) session
          { pumped.session with
            inputAgain := pumped.session.inputAgain + 1
            inputLatency := latency } :=
        pump.adds.followed (fun counter => by cases counter <;> rfl) id
      refine tried.congr fun counter => ?_
      rw [failureCount_of_not_negative (show ¬codecAgain < codecOk by decide)]
      simp [handedCount, pump.handed, handedInput]
  | @refused _ pumped _ started now opened pumping index latency answer failed =>
      have pump := pumping.of_all (pumpIfTranscoder_run session)
      have timed : Adds (fun _ => 0) session { pumped.session with inputLatency := latency } :=
        pump.adds.followed (fun counter => by cases counter <;> rfl) id
      have negative : codecErrorCodec < codecOk := by decide
      refine (timed.trans (adds_error negative)).congr fun counter => ?_
      cases counter <;>
        simp [handedCount, pump.handed, handedInput, inputCount, HandedInput.accepted, failed]
  | @accepted _ _ pumped _ started now opened pumping index latency pumpingOn =>
      have pump := pumping.of_all (pumpIfTranscoder_run session)
      have pumpOn := pumpingOn.of_all (pumpIfTranscoder_run _)
      have timed : Adds (fun _ => 0) session { pumped.session with inputLatency := latency } :=
        pump.adds.followed (fun counter => by cases counter <;> rfl) id
      have ok := pumpOn.succeeds fun exchange member => regular exchange (by simp [member])
      refine ((timed.trans (adds_queuedEos presentationTimeUs)).trans pumpOn.adds).congr
        fun counter => ?_
      rw [failureCount_of_not_negative (by rw [ok]; decide)]
      simp [handedCount, pump.handed, pumpOn.handed, handedInput]

/-- A flush hands the codec nothing and adds one error for a negative status. -/
theorem dscwCodecFlush_adds (session : CodecSession) :
    (dscwCodecFlush session).All fun log outcome =>
      Adds (fun counter => handedCount log counter + failureCount outcome.status counter) session
        outcome.session := by
  rw [dscwCodecFlush, all_bind]
  refine (flushCodecs_quiet session).mono fun log status nothing => ?_
  split
  · have negative : codecErrorCodec < codecOk := by decide
    refine all_pure.mpr ((adds_error negative).congr fun counter => ?_)
    simp [handedCount, nothing]
  · rw [all_bind]
    refine (drainImages_quiet _).mono fun drained _ silent => all_pure.mpr ?_
    refine Adds.congr (adds_nothing (fun counter => by cases counter <;> rfl) ?_) fun counter => ?_
    · intro _ pending
      cases pending
    · rw [failureCount_of_not_negative (show ¬codecOk < codecOk by decide)]
      simp [handedCount, nothing, silent]

/-- A key frame request counts nothing, unless it fails in the codec. -/
theorem dscwCodecRequestKeyframe_adds (origin : CodecSession) :
    Tracks (permits (countsRegularlyAt origin .requestKeyframe)) () (dscwCodecRequestKeyframe session)
      fun _ outcome => Adds (fun _ => 0) session outcome.session := by
  rw [dscwCodecRequestKeyframe]
  split
  · exact tracks_pure (Adds.refl session)
  refine tracks_quiet (fun _ => rfl) fun available => ?_
  split
  · exact tracks_pure (Adds.refl session)
  refine tracks_quiet (fun _ => rfl) fun parameters => ?_
  split
  · exact tracks_pure (Adds.refl session)
  apply tracks_call
  intro status next moved
  have ok : status = amediaOk := by simpa [countsRegularlyAt] using permitted_of_permits moved
  rw [if_neg (not_not.mpr ok)]
  exact tracks_pure (Adds.refl session)

/-- Asking for a key frame hands the codec no input. -/
theorem dscwCodecRequestKeyframe_quiet :
    (dscwCodecRequestKeyframe session).All fun log _ => handedInputs log = [] := by
  rw [dscwCodecRequestKeyframe]
  split
  · exact rfl
  rw [all_bind, all_call]
  intro available
  split
  · exact rfl
  rw [all_bind, all_call]
  intro parameters
  split
  · exact rfl
  rw [all_bind, all_call]
  intro status
  split
  · exact rfl
  · exact rfl

end Adding

/-! ### Output records -/

section Output

variable {session : CodecSession} {capacity : Nat} {timeoutMs : UInt32}

/-- The header of an output record is its time, its flags and its length, each as bytes from the highest
on. -/
theorem recordHeader_eq (presentationTimeUs : UInt64) (flags length : UInt32) :
    recordHeader presentationTimeUs flags length = BigEndian.encode 8 presentationTimeUs.toNat ++
      BigEndian.encode 4 flags.toNat ++ BigEndian.encode 4 length.toNat := by
  rw [← Framing.putU64_bytes]
  rfl

/-- The flags and the data of a record are those it was built from. -/
theorem recordFlags_recordHeader (presentationTimeUs : UInt64) (flags length : UInt32)
    (data : Bytes) : recordFlags (recordHeader presentationTimeUs flags length ++ data) = flags := by
  apply UInt32.toNat_inj.mp
  rw [recordFlags, Framing.getU32_toNat, recordHeader_eq]
  simp [BigEndian.decode_encode]

/-- The data of a record is what follows the sixteen bytes of its header. -/
theorem recordData_recordHeader (presentationTimeUs : UInt64) (flags length : UInt32)
    (data : Bytes) : recordData (recordHeader presentationTimeUs flags length ++ data) = data :=
  List.drop_left' (length_recordHeader ..)

theorem unmarked {flags : UInt32}
    (plain : flags &&& (bufferFlagCodecConfig ||| bufferFlagEndOfStream) = 0) :
    flags &&& bufferFlagCodecConfig = 0 ∧ flags &&& bufferFlagEndOfStream = 0 := by
  have masked {mark : UInt32}
      (part : (bufferFlagCodecConfig ||| bufferFlagEndOfStream) &&& mark = mark) :
      flags &&& mark = 0 := by
    rw [← part, ← UInt32.and_assoc, plain, UInt32.zero_and]
  exact ⟨masked (by decide), masked (by decide)⟩

/-- What an outcome of a dequeue adds to a counter. -/
def outcomeCount (outcome : Outcome) (counter : Counter) : Nat :=
  if outcome.status = codecOk then recordCount outcome.output counter else 0

theorem Adds.undelivered {outcome : Outcome} (adds : Adds (fun _ => 0) session outcome.session)
    (status : outcome.status ≠ codecOk) : Adds (outcomeCount outcome) session outcome.session :=
  adds.congr fun _ => (if_neg status).symm

/-- An outcome with a record counts as that record when its status is OK. -/
theorem Adds.delivered {outcome : Outcome} (adds : Adds (recordCount outcome.output) session
    outcome.session) (status : outcome.status = codecOk) :
    Adds (outcomeCount outcome) session outcome.session :=
  adds.congr fun _ => (if_pos status).symm

/-- Acquiring an image fails with a status that is not OK, so that a failure is counted as one. -/
theorem acquireAttempts_error (handle : Option Handle) (deadline : UInt64) (polls : Nat) :
    (acquireAttempts handle deadline polls).All fun _ result =>
      ∀ status, result = .error status → status ≠ codecOk := by
  have again : ∀ status, (.error codecAgain : Except Int32 Image) = .error status →
      status ≠ codecOk := by
    rintro status ⟨⟩
    decide
  induction polls with
  | zero => exact again
  | succ polls ih =>
      rw [acquireAttempts, all_bind, all_call]
      intro acquired
      split
      · intro _ same
        cases same
      split
      · rintro status ⟨⟩
        exact show codecErrorCodec ≠ codecOk by decide
      rw [all_bind, all_call]
      intro slept
      rw [all_bind, all_call]
      intro now
      split
      · exact ih
      · exact again

/-- A plain image is delivered and counted as one frame; without a record nothing is counted here. -/
theorem outputPendingImage_adds (plain : PlainPending session) (pending : session.pendingImage = true) :
    (outputPendingImage session timeoutMs capacity).All fun _ outcome =>
      Adds (outcomeCount outcome) session outcome.session := by
  rw [outputPendingImage, all_bind, acquireImage, all_bind, all_call]
  intro now
  refine (acquireAttempts_error _ _ _).mono fun log acquired failed => ?_
  cases acquired with
  | error status => exact (Adds.refl session).undelivered (failed status rfl)
  | ok image =>
      dsimp only
      rw [all_bind, all_call]
      intro deleted
      cases normalized : normalizeImage image (capacity - 16) with
      | error failure =>
          refine (Adds.refl session).undelivered fun (ok : failure.status = codecOk) => ?_
          have negative := normalizeImage_error normalized
          rw [ok] at negative
          exact absurd negative (by decide)
      | ok pixels =>
          refine Adds.delivered ⟨fun counter => ?_, fun _ pending => by cases pending⟩ rfl
          have nonempty := normalizeImage_ne_nil normalized
          obtain ⟨notConfig, notEos⟩ := unmarked (plain pending)
          cases counter <;>
            simp [CodecSession.counter, recordCount, recordData_recordHeader,
              recordFlags_recordHeader, nonempty, notConfig, notEos]

/-- A byte-buffer record counts what its header and its data say, provided that both come from the same
buffer. -/
theorem adds_deliverOutput {info : BufferInfo} {record : Bytes}
    (flagged : recordFlags record = info.flags)
    (whole : ((recordData record).length : Int) = info.size.toInt) :
    Adds (recordCount record) session (session.deliverOutput info) := by
  have bytes : UInt64.ofInt info.size.toInt = UInt64.ofNat (recordData record).length := by
    rw [← whole, UInt64.ofInt]
    exact UInt64.toNat_inj.mp (by rw [UInt64.toNat_ofNat', UInt64.toNat_ofNat']; omega)
  have empty : recordData record = [] ↔ ¬0 < info.size := by
    rw [Int32.lt_iff_toInt_lt, ← whole]
    simp [List.length_pos_iff]
  constructor
  · intro counter
    unfold CodecSession.deliverOutput
    dsimp only
    by_cases some : 0 < info.size
    · have nonempty : recordData record ≠ [] := fun none => empty.mp none some
      by_cases config : info.flags &&& bufferFlagCodecConfig = 0 <;>
        by_cases eos : info.flags &&& bufferFlagEndOfStream = 0 <;> cases counter <;>
        simp [CodecSession.counter, recordCount, flagged, some, config, eos, nonempty, bytes]
    · have nothing := empty.mpr some
      by_cases eos : info.flags &&& bufferFlagEndOfStream = 0 <;> cases counter <;>
        simp [CodecSession.counter, recordCount, flagged, some, eos, nothing]
  · unfold CodecSession.deliverOutput
    dsimp only
    split <;> split <;> (try split) <;> exact id

/-- The length that `copyOutputBuffer` returns does not wrap for a size that is not negative. -/
theorem outputLength_toNat {size : Int32} (nonnegative : 0 ≤ size) :
    (UInt64.ofInt size.toInt + 16).toNat = size.toInt.toNat + 16 := by
  rw [Int32.le_iff_toInt_le] at nonnegative
  have zero : (0 : Int32).toInt = 0 := rfl
  have bound : size.toInt < 2 ^ 31 := Int32.toInt_lt size
  rw [UInt64.toNat_add, UInt64.ofInt, UInt64.toNat_ofNat', show (16 : UInt64).toNat = 16 from rfl]
  omega

/-- The data that is copied has the size of its buffer, which the check in front of the copy has made
sure of. -/
theorem length_outputData {info : BufferInfo} {source : Option Bytes} {offset : Nat}
    (valid : ¬(0 < info.size ∧ source.all (fun buffer =>
      decide (buffer.length < offset + info.size.toInt.toNat)) = true)) :
    (if 0 < info.size then ((source.getD []).drop offset).take info.size.toInt.toNat else []).length =
      info.size.toInt.toNat := by
  split
  next some =>
    have covered : ¬source.all (fun buffer =>
        decide (buffer.length < offset + info.size.toInt.toNat)) = true :=
      fun short => valid ⟨some, short⟩
    cases source with
    | none => exact absurd rfl covered
    | some buffer =>
        simp only [Option.all_some, decide_eq_true_eq] at covered
        simp only [Option.getD_some, List.length_take, List.length_drop]
        omega
  next none =>
    rw [Int32.lt_iff_toInt_lt] at none
    have zero : (0 : Int32).toInt = 0 := rfl
    rw [List.length_nil]
    omega

/-- A buffer whose size is not negative is counted as delivered exactly when its record is returned. -/
theorem copyOutputBuffer_adds {handle : Option Handle} {index : Nat} {info : BufferInfo}
    (nonnegative : 0 ≤ info.size) :
    (copyOutputBuffer session handle index info capacity).All fun _ outcome =>
      Adds (outcomeCount outcome) session outcome.session := by
  rw [copyOutputBuffer]
  split
  · rw [all_bind, all_call]
    intro released
    exact (Adds.refl session).undelivered (show codecErrorLimit ≠ codecOk by decide)
  rw [all_bind, all_call]
  intro source
  dsimp only
  rw [outputLength_toNat nonnegative]
  split
  next =>
    rw [all_bind, all_call]
    intro released
    exact (Adds.refl session).undelivered (show codecErrorCodec ≠ codecOk by decide)
  next valid =>
    rw [all_bind, all_call]
    intro released
    have length := length_outputData valid
    refine all_pure.mpr (Adds.delivered (adds_deliverOutput ?_ ?_) rfl)
    · rw [List.take_of_length_le (by rw [List.length_append, length_recordHeader, length]; omega)]
      exact recordFlags_recordHeader ..
    · rw [List.take_of_length_le (by rw [List.length_append, length_recordHeader, length]; omega),
        recordData_recordHeader, length]
      rw [Int32.le_iff_toInt_le] at nonnegative
      exact Int.toNat_of_nonneg nonnegative

/-- A format that cannot be reported fails with a status that is not OK. -/
theorem formatRecord_error {handle : Option Handle} :
    (formatRecord session handle capacity).All fun _ result =>
      ∀ failure, result = .error failure → failure.status ≠ codecOk := by
  rw [formatRecord]
  split
  · rintro failure ⟨⟩
    exact show codecErrorLimit ≠ codecOk by decide
  · intro _ _ same
    cases same

/-- The exchanges of a dequeue that are counted right. -/
def dequeuesRegularly (origin : CodecSession) (timeoutMs : UInt32) (capacity : Nat)
    (exchange : Exchange Platform.Call Platform.Answer) : Bool :=
  sizeNonnegative exchange &&
    countsRegularlyAt origin (.operate (.dequeue timeoutMs capacity)) exchange

/-- In all its turns the output loop delivers one record at the most, and counts that one. -/
theorem dequeueAttempts_adds {origin : CodecSession} (handle : Option Handle) (remaining : Nat)
    (encoder : session.encoder = origin.encoder)
    (transcoder : session.transcoder = origin.transcoder) :
    Tracks (permits (dequeuesRegularly origin timeoutMs capacity)) ()
      (dequeueAttempts handle timeoutMs capacity remaining session)
      fun _ outcome => Adds (outcomeCount outcome) session outcome.session := by
  have again : codecAgain ≠ codecOk := by decide
  induction remaining with
  | zero => exact tracks_pure ((Adds.refl session).undelivered again)
  | succ remaining ih =>
      rw [dequeueAttempts]
      apply tracks_call
      intro dequeued next moved
      have regular := permitted_of_permits moved
      dsimp only
      split
      · exact tracks_pure ((Adds.refl session).undelivered again)
      split
      · apply tracks_bind
        refine (tracks_of_all formatRecord_error).mono fun _ record failed => ?_
        cases record with
        | error failure =>
            exact tracks_pure ((Adds.refl session).undelivered (failed failure rfl))
        | ok bytes =>
            refine tracks_pure (Adds.undelivered ?_ (show codecFormatChanged ≠ codecOk by decide))
            exact adds_nothing (fun counter => by cases counter <;> rfl) id
      split
      · exact ih
      next other =>
      obtain ⟨_, nonnegative⟩ := not_or.mp other
      simp only [dequeuesRegularly, sizeNonnegative, countsRegularlyAt, Bool.and_eq_true,
        Bool.or_eq_true, decide_eq_true_eq, nonnegative, false_or, or_false, ← encoder, ← transcoder,
        beq_iff_eq] at regular
      obtain ⟨size, marked⟩ := regular
      split
      next rendered =>
        simp only [Bool.and_eq_true, Bool.not_eq_true', decide_eq_true_eq] at rendered
        obtain ⟨⟨noEncoder, direct⟩, data⟩ := rendered
        have unmarked : dequeued.2.flags &&&
            (bufferFlagCodecConfig ||| bufferFlagEndOfStream) = 0 := by
          simpa [noEncoder, direct, Int32.not_le.mpr data] using marked
        refine tracks_of_all ?_
        rw [all_bind, all_call]
        intro released
        split
        · refine all_pure.mpr (Adds.undelivered ?_ (show codecErrorCodec ≠ codecOk by decide))
          exact adds_nothing (fun counter => by cases counter <;> rfl) fun _ pending => by cases pending
        · -- The image is pending with the flags of its buffer.
          refine (outputPendingImage_adds (fun _ => unmarked) rfl).mono fun log outcome adds => ?_
          have entered : Adds (fun _ => 0) session
              { session with
                pendingImage := true
                pendingImagePts := dequeued.2.presentationTimeUs.toUInt64
                pendingImageFlags := dequeued.2.flags } :=
            adds_nothing (fun counter => by cases counter <;> rfl) fun _ _ => unmarked
          exact (entered.trans adds).congr fun _ => Nat.zero_add _
      next => exact tracks_of_all (copyOutputBuffer_adds size)

/-- Asking the codec for output adds what is delivered, on the decoder, the encoder and the transcoder
path. -/
theorem dequeueInternal_adds (plain : PlainPending session) :
    Tracks (permits (dequeuesRegularly session timeoutMs capacity)) ()
      (dequeueInternal session timeoutMs capacity)
      fun _ outcome => Adds (outcomeCount outcome) session outcome.session := by
  rw [dequeueInternal]
  split
  · exact tracks_pure ((Adds.refl session).undelivered (show codecErrorProtocol ≠ codecOk by decide))
  split
  next pending => exact tracks_of_all (outputPendingImage_adds plain pending)
  split
  · apply tracks_bind
    have pump : (pumpTranscoder session timeoutMs).All fun _ pumped =>
        Adds (fun _ => 0) session pumped.session ∧ SameInput session pumped.session :=
      (pumpAttempts_run timeoutMs 16 0 session).mono fun _ _ run => ⟨run.adds, run.sameInput⟩
    refine (tracks_of_all pump).mono fun _ pumped holds => ?_
    obtain ⟨adds, same⟩ := holds
    split
    next failed => exact tracks_pure (adds.undelivered failed)
    next =>
      refine (dequeueAttempts_adds _ _ same.encoder same.transcoder).mono
        fun _ outcome delivered => ?_
      exact (adds.trans delivered).congr fun _ => Nat.zero_add _
  · exact dequeueAttempts_adds _ _ rfl rfl

/-- A `DEQUEUE` adds what it delivers, and one error when its status is negative. -/
theorem dscwCodecDequeue_adds (plain : PlainPending session) :
    Tracks (permits (dequeuesRegularly session timeoutMs capacity)) ()
      (dscwCodecDequeue session timeoutMs capacity)
      fun _ outcome => Adds (fun counter => outcomeCount outcome counter +
        failureCount outcome.status counter) session outcome.session := by
  rw [dscwCodecDequeue]
  refine tracks_quiet (fun _ => rfl) fun started => ?_
  apply tracks_bind
  refine (dequeueInternal_adds plain).mono fun _ result adds => ?_
  have clock : Tracks (permits (dequeuesRegularly session timeoutMs capacity)) ()
      (recordLatency result.session.outputLatency started) fun _ _ => True :=
    tracks_quiet (fun _ => rfl) fun _ => tracks_pure trivial
  apply tracks_bind
  refine clock.mono fun _ latency _ => ?_
  have timed : Adds (outcomeCount result) session { result.session with outputLatency := latency } :=
    adds.followed (fun counter => by cases counter <;> rfl) id
  split
  next again =>
    have tried : Adds (outcomeCount result) session
        { result.session with
          outputLatency := latency
          outputAgain := result.session.outputAgain + 1 } :=
      adds.followed (fun counter => by cases counter <;> rfl) id
    refine tracks_pure (tried.congr fun counter => ?_)
    rw [failureCount_of_not_negative (by rw [again]; decide)]
    rfl
  next => exact tracks_pure (timed.trans (adds_countError result.status))

end Output

/-! ### Runs -/

section Runs

variable {before after : CodecSession} {call : StatCall} {calls : List StatCall} {counter : Counter}

/-- The total over a longer list of calls is the total over the shorter one and what the last call adds.
-/
theorem total_append :
    total (calls ++ [call]) counter = total calls counter + call.count counter := by
  simp [total]

/-- One call adds to every counter what it delivered, had accepted or failed with. -/
theorem adds_step (plain : PlainPending before) (sizes : SizesNonnegative before call)
    (regular : CountsRegularly before call) (step : StatStep before call after) :
    Adds call.count before after := by
  obtain ⟨op, log, outcome⟩ := call
  obtain ⟨run, rfl⟩ := step
  have silent {op : SessionOp}
      (nothing : (StatCall.mk (.operate op) log outcome).delivered = []) (counter : Counter) :
      handedCount log counter + failureCount outcome.status counter =
        (StatCall.mk (.operate op) log outcome).count counter := by
    rw [StatCall.count, nothing]
    simp [StatCall.failed, handedCount]
  cases op with
  | requestKeyframe =>
      have adds := run.of_tracks (dscwCodecRequestKeyframe_adds before) (observed_permits regular)
      have nothing : handedInputs log = [] := run.of_all dscwCodecRequestKeyframe_quiet
      refine adds.congr fun counter => ?_
      simp [StatCall.count, StatCall.delivered, StatCall.failed, nothing]
  | operate op =>
      cases op with
      | queue data presentationTimeUs flags =>
          exact (run.of_all (dscwCodecQueue_adds before data presentationTimeUs flags)).congr
            (silent rfl)
      | queueEos presentationTimeUs =>
          exact (run.of_all (dscwCodecQueueEos_adds before presentationTimeUs) regular).congr
            (silent rfl)
      | flush => exact (run.of_all (dscwCodecFlush_adds before)).congr (silent rfl)
      | dequeue timeoutMs capacity =>
          have permitted : ∀ exchange ∈ log,
              dequeuesRegularly before timeoutMs capacity exchange = true := by
            intro exchange member
            rw [dequeuesRegularly, sizes exchange member, regular exchange member]
            rfl
          have adds := run.of_tracks (dscwCodecDequeue_adds plain) (observed_permits permitted)
          have nothing : handedInputs log = [] :=
            (run.of_all (dscwCodecDequeue_keepsInput timeoutMs capacity)).1
          refine adds.congr fun counter => ?_
          rw [outcomeCount, StatCall.count, StatCall.delivered, nothing]
          dsimp only
          split <;> simp [StatCall.failed]

end Runs

/-- The session with the given numbers in its counters. -/
def CodecSession.reporting (session : CodecSession) (counts : Counter → UInt64) : CodecSession :=
  { session with
    outputRecords := counts .outputRecords
    outputFrames := counts .outputFrames
    outputBytes := counts .outputBytes
    outputEosCount := counts .outputEos
    inputRecords := counts .inputRecords
    inputFrames := counts .inputFrames
    inputBytes := counts .inputBytes
    inputEosCount := counts .inputEos
    errors := counts .errors }

/-- Where the statistics are printed they are the text of the counters of the session, with its uptime
and processor time. -/
theorem dscwCodecStatistics_text {session : CodecSession} {sessionId : UInt64} {outputSize : Nat} :
    (dscwCodecStatistics session sessionId outputSize).All fun _ printed =>
      ∀ text, printed = some text → ∃ uptimeMs cpuMs,
        text = textBytes (statisticsText session sessionId uptimeMs cpuMs) := by
  rw [dscwCodecStatistics]
  split
  · intro _ none
    cases none
  · intro now cpuMs text printed
    refine ⟨(now - session.startedNs) / 1000000, cpuMs, ?_⟩
    rw [printedText] at printed
    split at printed
    · cases printed
    · exact (Option.some.inj printed).symm

/-- In every run of calls on a session in which no buffer size is negative, no decoder buffer with
data is marked as configuration or end of stream, no pump fails below an EOS and no key frame request
fails in the codec, the counters that the statistics report are the totals of what the calls have
delivered, what the codec has accepted and the negative statuses returned, all modulo `2 ^ 64`. -/
theorem session_statistics {session : CodecSession} {trace : List (CodecSession × StatCall)}
    {state : CodecSession} (fresh : FreshSession session) (run : Run StatStep session trace state)
    (sizes : Meets SizesNonnegative trace) (regular : Meets CountsRegularly trace) :
    (∀ counter, state.counter counter = UInt64.ofNat (total (trace.map Prod.snd) counter)) ∧
      ∀ sessionId outputSize log text,
        (dscwCodecStatistics state sessionId outputSize).Runs log (some text) →
        ∃ uptimeMs cpuMs, text = textBytes (statisticsText
          (state.reporting fun counter => UInt64.ofNat (total (trace.map Prod.snd) counter))
          sessionId uptimeMs cpuMs) := by
  have counted : (∀ counter, state.counter counter =
      UInt64.ofNat (total (trace.map Prod.snd) counter)) ∧ PlainPending state := by
    induction run with
    | start => exact ⟨fresh.zero, fun pending => nomatch fresh.pending.symm.trans pending⟩
    | step run step ih =>
        obtain ⟨sizesBefore, sizesNow⟩ := meets_append.mp sizes
        obtain ⟨regularBefore, regularNow⟩ := meets_append.mp regular
        obtain ⟨agree, plain⟩ := ih sizesBefore regularBefore
        have adds := adds_step plain sizesNow regularNow step
        refine ⟨fun counter => ?_, adds.plain plain⟩
        rw [adds.counts, agree, List.map_append, List.map_singleton, total_append, UInt64.ofNat_add]
  refine ⟨counted.1, fun sessionId outputSize log text printed => ?_⟩
  have same : state.reporting
      (fun counter => UInt64.ofNat (total (trace.map Prod.snd) counter)) = state := by
    rw [← funext counted.1]
    rfl
  rw [same]
  exact printed.of_all dscwCodecStatistics_text text rfl

theorem freshSession_imageDecoder : FreshSession imageDecoder :=
  ⟨fun counter => by cases counter <;> rfl, rfl⟩

/-- A dequeue of a decoder buffer with the given flags, whose image is acquired at once. -/
theorem statStep_image (flags : UInt32) : ∃ outcome,
    StatStep imageDecoder ⟨.operate (.dequeue 0 64),
      renderedAndAcquired flags (smallImage aimageFormatYuv420888), outcome⟩ outcome.session ∧
    outcome.status = codecOk ∧ outcome.session.outputEosCount = 0 ∧
    outcome.output = recordHeader 5 flags 6 ++ List.replicate 6 7 := by
  obtain ⟨outcome, replayed, rest⟩ : ∃ outcome,
      (dscwCodecDequeue imageDecoder 0 64).replay
        (renderedAndAcquired flags (smallImage aimageFormatYuv420888)) = some outcome ∧
      outcome.status = codecOk ∧ outcome.session.outputEosCount = 0 ∧
      outcome.output = recordHeader 5 flags 6 ++ List.replicate 6 7 := ⟨_, rfl, rfl, rfl, rfl⟩
  exact ⟨outcome, ⟨runs_of_replay replayed, rfl⟩, rest⟩

theorem sizesNonnegative_image (flags : UInt32) (outcome : Outcome) :
    SizesNonnegative imageDecoder ⟨.operate (.dequeue 0 64),
      renderedAndAcquired flags (smallImage aimageFormatYuv420888), outcome⟩ := by
  intro exchange member
  simp only [renderedAndAcquired, List.mem_cons, List.not_mem_nil, or_false] at member
  rcases member with rfl | rfl | rfl | rfl | rfl | rfl | rfl <;> rfl

theorem session_statistics_one_image :
    ∃ trace state, Run StatStep imageDecoder trace state ∧ Meets SizesNonnegative trace ∧
      Meets CountsRegularly trace ∧ trace.length = 1 ∧
      ∀ counter, state.counter counter = UInt64.ofNat (total (trace.map Prod.snd) counter) := by
  obtain ⟨outcome, step, -⟩ := statStep_image 0
  have regular : CountsRegularly imageDecoder ⟨.operate (.dequeue 0 64),
      renderedAndAcquired 0 (smallImage aimageFormatYuv420888), outcome⟩ := by
    intro exchange member
    simp only [renderedAndAcquired, List.mem_cons, List.not_mem_nil, or_false] at member
    rcases member with rfl | rfl | rfl | rfl | rfl | rfl | rfl <;> rfl
  obtain ⟨run, sizes⟩ := step_meeting ⟨Run.start, meets_nil⟩ step (sizesNonnegative_image 0 outcome)
  obtain ⟨-, meets⟩ := step_meeting ⟨Run.start, meets_nil⟩ step regular
  exact ⟨_, _, run, sizes, meets, rfl,
    (session_statistics freshSession_imageDecoder run sizes meets).1⟩

/-- A decoder buffer with data that carries the end-of-stream flag is delivered with it, and
`output_eos` stays 0. -/
theorem marked_image_not_counted :
    ¬∀ session trace state, FreshSession session → Run StatStep session trace state →
      Meets SizesNonnegative trace →
      ∀ counter, state.counter counter = UInt64.ofNat (total (trace.map Prod.snd) counter) := by
  intro agree
  obtain ⟨outcome, step, status, uncounted, output⟩ := statStep_image bufferFlagEndOfStream
  obtain ⟨run, sizes⟩ := step_meeting ⟨Run.start, meets_nil⟩ step
    (sizesNonnegative_image bufferFlagEndOfStream outcome)
  have counted := agree imageDecoder _ _ freshSession_imageDecoder run sizes .outputEos
  have one : total [⟨.operate (.dequeue 0 64),
      renderedAndAcquired bufferFlagEndOfStream (smallImage aimageFormatYuv420888), outcome⟩]
      .outputEos = 1 := by
    simp only [total, StatCall.count, StatCall.delivered, StatCall.failed, status, output, if_true,
      List.map_cons, List.map_nil, recordCount, recordFlags_recordHeader]
    rfl
  rw [CodecSession.counter, uncounted] at counted
  exact absurd (counted.trans (congrArg UInt64.ofNat one)) (by decide)

end DawnShell
