/-
Module: DawnShell.Proofs.OutputReplies
Layer: Proofs
Purpose: The replies to output requests.  A reply with a record is as long as its length field says, fits
  the capacity and carries bytes of the codec buffer or of the image, exactly when the size of the buffer
  is not one of the sixteen negative numbers that wrap around in the bounds check.  The client refuses
  the other replies.
Trusted boundary: none
Main exports: HandedOut, handedOut, RecordReply, Measured, ClientAccepts, output_reply_iff
-/
import DawnShell.Codec.Pipe
import DawnShell.Proofs.SessionStatistics

namespace DawnShell

open Wire Interaction

/-! ### What the platform hands out -/

/-- What the platform has answered last: the info of an output buffer, the bytes of an output buffer,
and an image. -/
structure HandedOut where
  info : Option BufferInfo := none
  buffer : Option Bytes := none
  image : Option Image := none

def HandedOut.after (before : HandedOut) : Exchange Platform.Call Platform.Answer → HandedOut
  | ⟨.dequeueOutputBuffer _ _, answer⟩ => { before with info := some answer.2 }
  | ⟨.getOutputBuffer _ _, answer⟩ => { before with buffer := answer }
  | ⟨.acquireNextImage _, answer⟩ =>
      { before with image := if answer.1 = amediaOk then answer.2 else none }
  | _ => before

def handedOut (log : Platform.Log) : HandedOut := log.foldl HandedOut.after {}

/-- The number of bytes of the picture in an image. -/
def frameBytes (image : Image) : Nat :=
  match image.cropRect with
  | some crop => crop.width.toNat * crop.height.toNat * 3 / 2
  | none => 0

/-- Where the data of a record comes from. -/
inductive Copied (capacity : Nat) (last : HandedOut) : Bytes → Prop where
  | nothing : Copied capacity last []
  | buffer (info : BufferInfo) (bytes : Bytes) (dequeued : last.info = some info)
      (mapped : last.buffer = some bytes) (nonnegative : 0 ≤ info.offset)
      (inside : info.offset.toInt.toNat + info.size.toInt.toNat ≤ bytes.length) :
      Copied capacity last ((bytes.drop info.offset.toInt.toNat).take info.size.toInt.toNat)
  | image (image : Image) (pixels : Bytes) (acquired : last.image = some image)
      (normalized : normalizeImage image (capacity - 16) = .ok pixels) : Copied capacity last pixels

/-- A well-formed reply with a record. -/
structure RecordReply (capacity : Nat) (last : HandedOut) (output : Bytes) : Prop where
  whole : 16 ≤ output.length
  fits : output.length ≤ capacity
  embedded : (getU32 output 12).toNat = output.length - 16
  copied : Copied capacity last (recordData output)

/-- What is delivered has the size that was meant: a buffer's is not negative, and the number of bytes of
a picture has 32 bits. -/
structure Measured (last : HandedOut) : Prop where
  buffer : ∀ info ∈ last.info, 0 ≤ info.size
  image : ∀ image ∈ last.image, frameBytes image < 2 ^ 32

/-! ### Records -/

section Records

variable {session : CodecSession} {capacity : Nat} {timeoutMs : UInt32} {last : HandedOut}
  {output : Bytes} {outcome : Outcome}

theorem getU32_recordHeader (presentationTimeUs : UInt64) (flags length : UInt32) (data : Bytes) :
    getU32 (recordHeader presentationTimeUs flags length ++ data) 12 = length := by
  apply UInt32.toNat_inj.mp
  rw [Framing.getU32_toNat, recordHeader_eq, List.append_assoc,
    List.drop_left' (by rw [List.length_append, BigEndian.length_encode, BigEndian.length_encode]),
    List.take_left' (BigEndian.length_encode 4 _)]
  simp [BigEndian.decode_encode]

/-- The two ways a record is delivered. -/
inductive Delivery (capacity : Nat) (last : HandedOut) : Bytes → Prop where
  | buffer (info : BufferInfo) (data : Bytes) (dequeued : last.info = some info)
      (acquired : last.image = none)
      (checked : (UInt64.ofInt info.size.toInt + 16).toNat ≤ capacity)
      (length : data.length = info.size.toInt.toNat) (copied : Copied capacity last data) :
      Delivery capacity last ((recordHeader info.presentationTimeUs.toUInt64 info.flags
        info.size.toUInt32 ++ data).take (UInt64.ofInt info.size.toInt + 16).toNat)
  | image (presentationTimeUs : UInt64) (flags : UInt32) (image : Image) (pixels : Bytes)
      (large : 20 ≤ capacity) (acquired : last.image = some image)
      (dequeued : ∀ info ∈ last.info, 0 < info.size)
      (normalized : normalizeImage image (capacity - 16) = .ok pixels) :
      Delivery capacity last (recordHeader presentationTimeUs flags (UInt32.ofNat pixels.length) ++
        pixels)

/-- A negative size is not zero when it is taken for an unsigned one, so that it is never mistaken for
an empty record. -/
theorem toUInt32_ne_zero {size : Int32} (negative : ¬0 ≤ size) : size.toUInt32.toNat ≠ 0 := by
  intro zero
  have same : size.toUInt32 = 0 := UInt32.toNat_inj.mp zero
  rw [← Int32.toInt32_toUInt32 size, same] at negative
  exact negative (by decide)

/-- An image that is normalized has as many bytes as the frame that was measured before. -/
theorem frameBytes_normalized {image : Image} {pixels : Bytes}
    (normalized : normalizeImage image capacity = .ok pixels) :
    frameBytes image = pixels.length := by
  obtain ⟨crop, reported, _, _, length, _⟩ := normalizeImage_length normalized
  rw [frameBytes, reported, length]

/-- A record that is as long as it says has the size that was meant; the converse of the lemma on what
is delivered. -/
theorem measured_of_length (delivery : Delivery capacity last output) (whole : 16 ≤ output.length)
    (embedded : (getU32 output 12).toNat = output.length - 16) : Measured last := by
  cases delivery with
  | buffer info data dequeued acquired checked length copied =>
      refine ⟨fun other same => ?_, fun image taken => ?_⟩
      · obtain rfl : info = other := Option.some.inj (dequeued.symm.trans same)
        by_contra negative
        -- No data is copied, and the length field is not zero.
        have none : data = [] := by
          rw [Int32.le_iff_toInt_le, Int32.toInt_zero] at negative
          exact List.eq_nil_of_length_eq_zero (by rw [length]; omega)
        rw [none, List.append_nil] at whole embedded
        rw [List.length_take, length_recordHeader] at whole
        rw [List.take_of_length_le (by rw [length_recordHeader]; omega), length_recordHeader,
          ← List.append_nil (recordHeader ..), getU32_recordHeader] at embedded
        exact toUInt32_ne_zero negative embedded
      · rw [acquired] at taken
        exact nomatch taken
  | image presentationTimeUs flags image pixels large acquired dequeued normalized =>
      refine ⟨fun info same => Int32.le_of_lt (dequeued info same), fun other same => ?_⟩
      obtain rfl : image = other := Option.some.inj (acquired.symm.trans same)
      rw [getU32_recordHeader, List.length_append, length_recordHeader, Nat.add_sub_cancel_left,
        UInt32.toNat_ofNat'] at embedded
      rw [frameBytes_normalized normalized, ← embedded]
      exact Nat.mod_lt _ (by decide)

/-- A delivery that was measured makes a record with the length that its header gives. -/
theorem recordReply_of_measured (delivery : Delivery capacity last output)
    (measured : Measured last) : RecordReply capacity last output := by
  cases delivery with
  | buffer info data dequeued acquired checked length copied =>
      have nonnegative := measured.buffer info dequeued
      have bound := outputLength_toNat nonnegative
      rw [bound] at checked
      rw [bound, List.take_of_length_le
        (by rw [List.length_append, length_recordHeader, length]; omega)]
      constructor
      · rw [List.length_append, length_recordHeader]
        omega
      · rw [List.length_append, length_recordHeader, length]
        omega
      · rw [getU32_recordHeader, Int32.toNat_toUInt32_of_le nonnegative, List.length_append,
          length_recordHeader, length, Int32.toNatClampNeg]
        omega
      · rwa [recordData_recordHeader]
  | image presentationTimeUs flags image pixels large acquired dequeued normalized =>
      have small := measured.image image acquired
      rw [frameBytes_normalized normalized] at small
      have fits := length_normalizeImage normalized
      constructor
      · rw [List.length_append, length_recordHeader]
        omega
      · rw [List.length_append, length_recordHeader]
        omega
      · rw [getU32_recordHeader, List.length_append, length_recordHeader, Nat.add_sub_cancel_left,
          UInt32.toNat_ofNat_of_lt' small]
      · rw [recordData_recordHeader]
        exact .image image pixels acquired normalized

end Records

/-! ### Runs -/

/-- The observer of what the platform hands out. -/
def watch (before : HandedOut) (exchange : Exchange Platform.Call Platform.Answer) : Option HandedOut :=
  some (before.after exchange)

/-- What an outcome of a dequeue leaves in the output buffer. -/
structure RepliesWith (capacity : Nat) (last : HandedOut) (outcome : Outcome) : Prop where
  ok : outcome.status = codecOk → Delivery capacity last outcome.output
  formatChanged : outcome.status = codecFormatChanged → outcome.output.length = 20

section Runs

variable {session : CodecSession} {capacity : Nat} {timeoutMs : UInt32} {before last : HandedOut}
  {outcome : Outcome}

/-- An outcome that is neither a record nor a format. -/
theorem repliesWith_nothing (record : outcome.status ≠ codecOk)
    (format : outcome.status ≠ codecFormatChanged) : RepliesWith capacity last outcome :=
  ⟨fun same => absurd same record, fun same => absurd same format⟩

/-- An outcome with a negative status is a failing reply, and nothing is said of its output. -/
theorem repliesWith_failed (negative : outcome.status < codecOk) : RepliesWith capacity last outcome := by
  refine repliesWith_nothing ?_ ?_ <;> intro same <;> rw [same] at negative <;>
    exact absurd negative (by decide)

/-- An outcome that is OK and delivers is a reply with a record. -/
theorem repliesWith_record (ok : outcome.status = codecOk)
    (delivery : Delivery capacity last outcome.output) : RepliesWith capacity last outcome :=
  ⟨fun _ => delivery, fun same => absurd (ok.symm.trans same) (by decide)⟩

/-- The session object is not part of a reply. -/
theorem RepliesWith.counted (replies : RepliesWith capacity last outcome) (after : CodecSession) :
    RepliesWith capacity last { outcome with session := after } :=
  ⟨replies.ok, replies.formatChanged⟩

/-- Acquiring an image ends with one, with the call to come again or with a failure. -/
theorem acquireAttempts_watched (handle : Option Handle) (deadline : UInt64) (polls : Nat) :
    Tracks watch before (acquireAttempts handle deadline polls) fun last result =>
      match result with
      | .error status => status = codecAgain ∨ status < codecOk
      | .ok image => last.info = before.info ∧ last.image = some image := by
  induction polls generalizing before with
  | zero => exact tracks_pure (.inl rfl)
  | succ polls ih =>
      rw [acquireAttempts]
      apply tracks_call
      rintro answer _ ⟨⟩
      split
      next image taken => exact tracks_pure ⟨rfl, taken⟩
      next =>
        split
        · exact tracks_pure (.inr (show codecErrorCodec < codecOk by decide))
        refine tracks_quiet (fun _ => rfl) fun slept => ?_
        refine tracks_quiet (fun _ => rfl) fun now => ?_
        split
        · exact ih
        · exact tracks_pure (.inl rfl)

/-- A pending image is delivered with the flags and the time of the buffer that it was rendered from. -/
theorem outputPendingImage_watched (large : 20 ≤ capacity)
    (rendered : ∀ info ∈ before.info, 0 < info.size) :
    Tracks watch before (outputPendingImage session timeoutMs capacity) (RepliesWith capacity) := by
  rw [outputPendingImage, acquireImage]
  apply tracks_bind
  refine tracks_quiet (fun _ => rfl) fun now => ?_
  refine (acquireAttempts_watched _ _ _).mono fun last acquired result => ?_
  cases acquired with
  | error status =>
      refine tracks_pure ?_
      rcases result with rfl | negative
      · exact repliesWith_nothing (show codecAgain ≠ codecOk by decide)
          (show codecAgain ≠ codecFormatChanged by decide)
      · exact repliesWith_failed negative
  | ok image =>
      obtain ⟨info, taken⟩ := result
      refine tracks_quiet (fun _ => rfl) fun deleted => ?_
      cases normalized : normalizeImage image (capacity - 16) with
      | error failure => exact tracks_pure (repliesWith_failed (normalizeImage_error normalized))
      | ok pixels =>
          exact tracks_pure (repliesWith_record rfl
            (.image _ _ image pixels large taken (by rwa [info]) normalized))

/-- A buffer that was dequeued is delivered with its own data, flags and time, or refused. -/
theorem copyOutputBuffer_watched {handle : Option Handle} {index : Nat} {info : BufferInfo}
    (dequeued : before.info = some info) (acquired : before.image = none) :
    Tracks watch before (copyOutputBuffer session handle index info capacity)
      (RepliesWith capacity) := by
  rw [copyOutputBuffer]
  split
  · exact tracks_quiet (fun _ => rfl) fun released =>
      tracks_pure (repliesWith_failed (show codecErrorLimit < codecOk by decide))
  next checked =>
  rw [not_or, Nat.not_lt, Int32.not_lt] at checked
  apply tracks_call
  rintro source _ ⟨⟩
  dsimp only
  split
  · exact tracks_quiet (fun _ => rfl) fun released =>
      tracks_pure (repliesWith_failed (show codecErrorCodec < codecOk by decide))
  next valid =>
    refine tracks_quiet (fun _ => rfl) fun released => ?_
    refine tracks_pure (repliesWith_record rfl (.buffer info _ dequeued acquired checked.1 ?_ ?_))
    · exact length_outputData valid
    · split
      next some =>
        cases source with
        | none => exact absurd ⟨some, rfl⟩ valid
        | some bytes =>
            refine .buffer info bytes dequeued rfl checked.2 ?_
            by_contra short
            exact valid ⟨some, by simpa using Nat.lt_of_not_le short⟩
      next => exact .nothing

/-- A format is reported in a record of twenty bytes, or not at all. -/
theorem formatRecord_watched {handle : Option Handle} :
    Tracks watch before (formatRecord session handle capacity) fun _ record =>
      match record with
      | .error failure => failure.status < codecOk
      | .ok bytes => bytes.length = 20 := by
  rw [formatRecord]
  split
  · exact tracks_pure (show codecErrorLimit < codecOk by decide)
  · exact tracks_quiet (fun _ => rfl) fun format => tracks_pure
      (length_putU32 _ (length_putU32 _ (length_putU32 _ (length_putU32 _ (length_putU32 _ rfl
        (by decide)) (by decide)) (by decide)) (by decide)) (by decide))

/-- In all its turns the output loop answers for the last buffer that it dequeued. -/
theorem dequeueAttempts_watched (handle : Option Handle) (remaining : Nat) (large : 20 ≤ capacity)
    (acquired : before.image = none) :
    Tracks watch before (dequeueAttempts handle timeoutMs capacity remaining session)
      (RepliesWith capacity) := by
  have again : ∀ {last} {session : CodecSession},
      RepliesWith capacity last { session, status := codecAgain } := fun {_ session} =>
    repliesWith_nothing (show codecAgain ≠ codecOk by decide)
      (show codecAgain ≠ codecFormatChanged by decide)
  induction remaining generalizing before with
  | zero => exact tracks_pure again
  | succ remaining ih =>
      rw [dequeueAttempts]
      apply tracks_call
      rintro dequeued _ ⟨⟩
      dsimp only
      split
      · exact tracks_pure again
      split
      · apply tracks_bind
        refine formatRecord_watched.mono fun last record result => ?_
        cases record with
        | error failure => exact tracks_pure (repliesWith_failed result)
        | ok bytes => exact tracks_pure ⟨fun same => absurd same
            (show codecFormatChanged ≠ codecOk by decide), fun _ => result⟩
      split
      · exact ih acquired
      split
      next rendered =>
        refine tracks_quiet (fun _ => rfl) fun released => ?_
        split
        · exact tracks_pure (repliesWith_failed (show codecErrorCodec < codecOk by decide))
        · refine outputPendingImage_watched large ?_
          rintro info ⟨⟩
          simp only [Bool.and_eq_true, decide_eq_true_eq] at rendered
          exact rendered.2
      next => exact copyOutputBuffer_watched rfl acquired

/-- A pump acquires no image, in any of its attempts, and ends with a status of its own. -/
theorem pumpAttempts_watched (remaining attempt : Nat) (acquired : before.image = none) :
    Tracks watch before (pumpAttempts timeoutMs remaining attempt session) fun last pumped =>
      last.image = none ∧ PumpStatus pumped.status := by
  induction remaining generalizing attempt session before with
  | zero => exact tracks_pure ⟨acquired, .inl rfl⟩
  | succ remaining ih =>
      rw [pumpAttempts]
      split
      · exact tracks_pure ⟨acquired, .inl rfl⟩
      apply tracks_call
      intro dequeued next moved
      replace acquired : next.image = none := by
        cases moved
        exact acquired
      dsimp only
      split
      · exact tracks_pure ⟨acquired, .inl rfl⟩
      split
      · exact ih _ acquired
      split
      · exact ih _ acquired
      generalize (if decide (0 < dequeued.2.size) = true then
        { session with surfaceFrames := session.surfaceFrames + 1 } else session) = rendered
      refine tracks_quiet (fun _ => rfl) fun released => ?_
      split
      · exact tracks_pure ⟨acquired, .inr rfl⟩
      split
      · refine tracks_quiet (fun _ => rfl) fun available => ?_
        split
        · exact tracks_pure ⟨acquired, .inr rfl⟩
        refine tracks_quiet (fun _ => rfl) fun signaled => ?_
        split
        · exact tracks_pure ⟨acquired, .inr rfl⟩
        · exact tracks_pure ⟨acquired, .inl rfl⟩
      · exact ih _ acquired

/-- On all its paths the codec is asked for output such that the reply fits what was dequeued. -/
theorem dequeueInternal_watched :
    Tracks watch {} (dequeueInternal session timeoutMs capacity) (RepliesWith capacity) := by
  rw [dequeueInternal]
  split
  · exact tracks_pure (repliesWith_failed (show codecErrorProtocol < codecOk by decide))
  next small =>
  have large : 20 ≤ capacity := Nat.le_of_not_lt small
  split
  · exact outputPendingImage_watched large fun info impossible => by cases impossible
  split
  · apply tracks_bind
    refine (pumpAttempts_watched 16 0 rfl).mono fun last pumped result => ?_
    split
    next failed =>
      rcases result.2 with ok | error
      · exact absurd ok failed
      · exact tracks_pure (repliesWith_failed (error ▸ by decide))
    · exact dequeueAttempts_watched _ 3 large result.1
  · exact dequeueAttempts_watched _ 3 large rfl

/-- Measuring the latency has nothing to do with what is delivered. -/
theorem recordLatency_watched {counters : LatencyCounters} {started : UInt64} :
    Tracks watch before (recordLatency counters started) fun last _ => last = before :=
  tracks_quiet (fun _ => rfl) fun _ => tracks_pure rfl

/-- Every reply to a `DEQUEUE` is a failure, a call to come again, a format or the record of one
delivery. -/
theorem dscwCodecDequeue_watched :
    Tracks watch {} (dscwCodecDequeue session timeoutMs capacity) (RepliesWith capacity) := by
  rw [dscwCodecDequeue]
  refine tracks_quiet (fun _ => rfl) fun started => ?_
  apply tracks_bind
  refine dequeueInternal_watched.mono fun last result replies => ?_
  apply tracks_bind
  refine recordLatency_watched.mono fun _ latency same => ?_
  subst same
  split
  · exact tracks_pure (replies.counted _)
  · exact tracks_pure (replies.counted _)

/-- What a run of `dscw_codec_dequeue` delivers, in terms of what its log hands out. -/
theorem repliesWith_handed {log : Platform.Log}
    (run : (dscwCodecDequeue session timeoutMs capacity).Runs log outcome) :
    RepliesWith capacity (handedOut log) outcome :=
  run.of_tracks dscwCodecDequeue_watched (observed_fold HandedOut.after {} log)

end Runs

/-! ### The client -/

/-- The messages with which `drain_output` refuses a reply. -/
def refusals : List Diagnostic := [.malformedFormat, .malformedRecord, .lengthMismatch]

/-- One of them has been printed. -/
def Refused (log : PipeLog) : Prop :=
  ∃ diagnostic ∈ refusals, ∃ exchange ∈ log,
    exchange.call = .stderr (textBytes "dawnshell-codec: " ++ diagnostic.body ++ [10])

/-- `drain_output` does not refuse this answer to its request. -/
def ClientAccepts (answer : RpcAnswer) : Prop :=
  ∀ sessionId timeoutMs state log final,
    (drainOutput sessionId timeoutMs state).Runs
      (⟨.rpc .output sessionId (putU32 (List.replicate 4 0) 0 timeoutMs), some answer⟩ :: log) final →
    ¬Refused log

section Client

variable {answer : RpcAnswer} {sessionId : UInt64} {timeoutMs : UInt32} {state : PipeOutputState}
  {log : PipeLog} {final : Int × PipeOutputState} {payload : Bytes}

/-- Two messages of one program begin alike as far as both go. -/
theorem take_of_same_line {first second start : Bytes} (count : Nat)
    (same : PipeCall.stderr (start ++ first ++ [10]) = .stderr (start ++ second ++ [10])) :
    first.take count = second.take count := by
  injection same with text
  rw [List.append_cancel_left (List.append_cancel_right text)]

/-- A diagnostic that begins otherwise than all refusals is none of them; seven bytes are enough to
tell. -/
theorem not_refused_report {diagnostic : Diagnostic} {done : Unit}
    (run : (report diagnostic).Runs log done)
    (different : ∀ refusal ∈ refusals, diagnostic.body.take 7 ≠ refusal.body.take 7) :
    ¬Refused log := by
  rintro ⟨refusal, member, exchange, printed, same⟩
  rw [run.of_call, List.mem_singleton] at printed
  subst printed
  exact different refusal member (take_of_same_line 7 same)

/-- An answer is refused along two logs in sequence when it is refused along one of them. -/
theorem refused_append {first second : PipeLog} :
    Refused (first ++ second) ↔ Refused first ∨ Refused second := by
  simp only [Refused, List.mem_append, or_and_right, exists_or, and_or_left]

/-- Without a diagnostic nothing is refused. -/
theorem not_refused_nil : ¬Refused [] := by
  rintro ⟨_, _, _, impossible, _⟩
  exact nomatch impossible

/-- A call that writes no diagnostic refuses nothing. -/
theorem not_refused_call {request : PipeCall} {reply : request.Answer}
    (run : (Pipe.call request).Runs log reply) (quiet : ∀ text, request ≠ .stderr text) :
    ¬Refused log := by
  rintro ⟨refusal, _, exchange, member, same⟩
  rw [run.of_call, List.mem_singleton] at member
  subst member
  exact quiet _ same

/-- The diagnostic about the order of times is no refusal of a malformed answer. -/
theorem nonMonotonic_differs (pts previous : UInt64) :
    ∀ refusal ∈ refusals,
      (Diagnostic.nonMonotonic pts previous).body.take 7 ≠ refusal.body.take 7 := by
  have start : (Diagnostic.nonMonotonic pts previous).body.take 7 = textBytes "non-mon" := by
    simp only [Diagnostic.body, textBytes_append, List.append_assoc]
    rw [List.take_append_of_le_length (by decide)]
    decide
  rw [start]
  simp only [refusals, List.forall_mem_cons]
  decide

/-- The line about the output format is no refusal of a malformed answer. -/
theorem outputFormat_differs (width height stride sliceHeight pixelFormat : UInt32) :
    ∀ refusal ∈ refusals,
      (Diagnostic.outputFormat width height stride sliceHeight pixelFormat).body.take 7 ≠
        refusal.body.take 7 := by
  have start : (Diagnostic.outputFormat width height stride sliceHeight pixelFormat).body.take 7 =
      textBytes "output-" := by
    simp only [Diagnostic.body, textBytes_append, List.append_assoc]
    rw [List.take_append_of_le_length (by decide)]
    decide
  rw [start]
  simp only [refusals, List.forall_mem_cons]
  decide

/-- The branch of `drain_output` for a status. -/
def drainAnswer (answer : RpcAnswer) (state : PipeOutputState) : Pipe (Int × PipeOutputState) :=
  if answer.status = codecAgain then pure (1, state)
  else if answer.status = codecFormatChanged then drainFormat answer.payload state
  else if answer.status ≠ codecOk then do
    let reported ← reportError "output" answer
    pure (reported + 2, state)
  else drainRecord answer.payload state

/-- Behind its request a run of `drain_output` is a run of the branch for the answer. -/
theorem runs_drainOutput_iff :
    (drainOutput sessionId timeoutMs state).Runs
        (⟨.rpc .output sessionId (putU32 (List.replicate 4 0) 0 timeoutMs), some answer⟩ :: log) final ↔
      (drainAnswer answer state).Runs log final := by
  have short : ¬dscwMaxPayload.toNat < (putU32 (List.replicate 4 0) 0 timeoutMs).length := by
    rw [length_putU32 timeoutMs (List.length_replicate (n := 4)) (by decide)]
    decide
  rw [drainOutput, rpc, if_neg short]
  constructor
  · intro run
    obtain ⟨first, value, second, one, two, same⟩ := run.of_bind
    rw [one.of_call] at same
    cases same
    exact two
  · exact fun run => (runs_call _ _).bind run

/-- The client accepts an answer exactly if no run of its drain, in whatever state it is, refuses it as
malformed. -/
theorem clientAccepts_iff :
    ClientAccepts answer ↔
      ∀ state log final, (drainAnswer answer state).Runs log final → ¬Refused log := by
  constructor
  · exact fun accepts state log final run => accepts 0 0 state log final (runs_drainOutput_iff.mpr run)
  · exact fun holds sessionId timeoutMs state log final run =>
      holds state log final (runs_drainOutput_iff.mp run)

/-- A branch that prints a refusal does not accept. -/
theorem refused_of_report (diagnostic : Diagnostic) (refusal : diagnostic ∈ refusals)
    (failed : Int × PipeOutputState) :
    ∃ log, (report diagnostic >>= fun _ => pure failed : Pipe _).Runs log failed ∧ Refused log := by
  have printed : (report diagnostic).Runs
      [⟨.stderr (textBytes "dawnshell-codec: " ++ diagnostic.body ++ [10]), ()⟩] () :=
    runs_call _ _
  exact ⟨_, printed.bind (.done failed), diagnostic, refusal, _, List.mem_singleton_self _, rfl⟩

/-- A drain that ends at once refuses nothing. -/
theorem not_refused_pure {value : Int × PipeOutputState}
    (run : (pure value : Pipe _).Runs log final) : ¬Refused log := by
  rw [run.of_pure.1]
  exact not_refused_nil

theorem not_refused_writeOutput (run : (writeOutput payload state).Runs log final) :
    ¬Refused log := by
  obtain ⟨written, count, rest, one, two, rfl⟩ := run.of_bind
  have wrote : ¬Refused written := not_refused_call one fun text same => nomatch same
  rw [refused_append, not_or]
  refine ⟨wrote, ?_⟩
  split at two
  · exact not_refused_pure two
  · obtain ⟨synced, flushed, last, three, four, rfl⟩ := two.of_bind
    have flush : ¬Refused synced := not_refused_call three fun text same => nomatch same
    rw [refused_append, not_or]
    refine ⟨flush, ?_⟩
    split at four
    · exact not_refused_pure four
    · exact not_refused_pure four

/-- A record is accepted exactly when it is as long as it says: its header is there, and the length in
it counts what follows. -/
theorem clientAccepts_record (ok : answer.status = codecOk) :
    ClientAccepts answer ↔ 16 ≤ answer.payload.length ∧
      (getU32 answer.payload 12).toNat = answer.payload.length - 16 := by
  have branch : ∀ state, drainAnswer answer state = drainRecord answer.payload state := fun state => by
    rw [drainAnswer, ok]
    rfl
  have length := Framing.toNat_ofNat_length answer.fits
  rw [clientAccepts_iff]
  simp only [branch, drainRecord]
  constructor
  · intro accepts
    by_contra wrong
    by_cases short : answer.payload.length < 16
    · obtain ⟨log, run, refused⟩ :=
        refused_of_report .malformedRecord (by simp [refusals]) (3, {})
      refine accepts {} log (3, {}) ?_ refused
      rwa [if_pos short]
    · obtain ⟨log, run, refused⟩ :=
        refused_of_report .lengthMismatch (by simp [refusals]) (3, {})
      refine accepts {} log (3, {}) ?_ refused
      have differs : getU32 answer.payload 12 ≠ UInt32.ofNat answer.payload.length - 16 := by
        intro same
        have above : (16 : UInt32) ≤ UInt32.ofNat answer.payload.length := by
          rw [UInt32.le_iff_toNat_le, length]
          exact Nat.le_of_not_lt short
        refine wrong ⟨Nat.le_of_not_lt short, ?_⟩
        rw [same, UInt32.toNat_sub_of_le _ _ above, length]
        rfl
      rwa [if_neg short, if_pos differs]
  · rintro ⟨whole, embedded⟩ state log final run
    have same : getU32 answer.payload 12 = UInt32.ofNat answer.payload.length - 16 := by
      have above : (16 : UInt32) ≤ UInt32.ofNat answer.payload.length := by
        rw [UInt32.le_iff_toNat_le, length]
        exact whole
      apply UInt32.toNat_inj.mp
      rw [embedded, UInt32.toNat_sub_of_le _ _ above, length]
      rfl
    rw [if_neg (Nat.not_lt.mpr whole), if_neg (not_not.mpr same)] at run
    split at run
    · obtain ⟨printed, _, rest, one, two, rfl⟩ := run.of_bind
      rw [two.of_pure.1, List.append_nil]
      exact not_refused_report one (nonMonotonic_differs _ _)
    · exact not_refused_writeOutput run

/-- A format is accepted exactly when it has twenty bytes. -/
theorem clientAccepts_format (changed : answer.status = codecFormatChanged)
    (twenty : answer.payload.length = 20) : ClientAccepts answer := by
  rw [clientAccepts_iff]
  intro state log final run
  rw [drainAnswer, changed, if_neg (by decide), if_pos rfl, drainFormat, if_pos twenty] at run
  obtain ⟨printed, _, rest, one, two, rfl⟩ := run.of_bind
  rw [two.of_pure.1, List.append_nil]
  exact not_refused_report one (outputFormat_differs _ _ _ _ _)

end Client

/-- For every session, every answer of the platform and every capacity: a reply with status OK is a
well-formed record, and the client takes it, exactly when the size of what it delivers was meant so; a
reply with status FORMAT_CHANGED has twenty bytes, and the client takes it. -/
theorem output_reply_iff {session : CodecSession} {timeoutMs : UInt32} {capacity : Nat}
    {log : Platform.Log} {outcome : Outcome}
    (run : (dscwCodecDequeue session timeoutMs capacity).Runs log outcome) :
    (outcome.status = codecOk →
      (RecordReply capacity (handedOut log) outcome.output ↔ Measured (handedOut log)) ∧
        ∀ answer : RpcAnswer, answer.status = outcome.status → answer.payload = outcome.output →
          (ClientAccepts answer ↔ Measured (handedOut log))) ∧
      (outcome.status = codecFormatChanged →
        outcome.output.length = 20 ∧
          ∀ answer : RpcAnswer, answer.status = outcome.status → answer.payload = outcome.output →
            ClientAccepts answer) := by
  have replies := repliesWith_handed run
  constructor
  · intro ok
    have delivery := replies.ok ok
    refine ⟨⟨fun reply => measured_of_length delivery reply.whole reply.embedded,
      recordReply_of_measured delivery⟩, fun answer status payload => ?_⟩
    rw [clientAccepts_record (status.trans ok), payload]
    constructor
    · exact fun accepted => measured_of_length delivery accepted.1 accepted.2
    · intro measured
      have reply := recordReply_of_measured delivery measured
      exact ⟨reply.whole, reply.embedded⟩
  · intro changed
    have twenty := replies.formatChanged changed
    exact ⟨twenty, fun answer status payload =>
      clientAccepts_format (status.trans changed) (payload ▸ twenty)⟩

/-- A byte-buffer encoder. -/
def bufferEncoder : CodecSession := { encoder := true, codec := some 1 }

/-- A platform that hands out an output buffer of this size. -/
def handsOut (size : Int32) : (call : Platform.Call) → Platform.Answer call
  | .dequeueOutputBuffer .. => (0, ⟨0, size, 0, 0⟩)
  | call => Platform.allSucceed call

/-- One output request to the encoder on that platform. -/
def encoderReply (size : Int32) : Platform.Log × Outcome :=
  (dscwCodecDequeue bufferEncoder 0 dscwMaxPayload.toNat).respond (handsOut size)

/-- An output buffer of size -16 is answered with OK and no bytes at all: header and data together make
a size of 0. -/
theorem negative_size_delivered :
    (dscwCodecDequeue bufferEncoder 0 dscwMaxPayload.toNat).Runs (encoderReply (-16)).1
        (encoderReply (-16)).2 ∧
      (encoderReply (-16)).2.status = codecOk ∧ (encoderReply (-16)).2.output = [] ∧
      ¬RecordReply dscwMaxPayload.toNat (handedOut (encoderReply (-16)).1)
        (encoderReply (-16)).2.output ∧
      ¬ClientAccepts ⟨codecOk, [], Nat.zero_le _⟩ := by
  have empty : (encoderReply (-16)).2.output = [] := by decide +kernel
  refine ⟨runs_respond _ _, by decide +kernel, empty, fun reply => ?_, fun accepts => ?_⟩
  · have whole := reply.whole
    rw [empty] at whole
    exact absurd whole (by decide)
  · exact absurd ((clientAccepts_record rfl).mp accepts).1 (show ¬16 ≤ 0 by decide)

/-- A record of one byte is well formed, and the client takes it. -/
theorem output_reply_iff_one_byte :
    ((encoderReply 1).2.status = codecOk →
      (RecordReply dscwMaxPayload.toNat (handedOut (encoderReply 1).1) (encoderReply 1).2.output ↔
          Measured (handedOut (encoderReply 1).1)) ∧
        ∀ answer : RpcAnswer, answer.status = (encoderReply 1).2.status →
          answer.payload = (encoderReply 1).2.output →
          (ClientAccepts answer ↔ Measured (handedOut (encoderReply 1).1))) ∧
      ((encoderReply 1).2.status = codecFormatChanged →
        (encoderReply 1).2.output.length = 20 ∧
          ∀ answer : RpcAnswer, answer.status = (encoderReply 1).2.status →
            answer.payload = (encoderReply 1).2.output → ClientAccepts answer) :=
  output_reply_iff (runs_respond (handsOut 1) _)

end DawnShell
