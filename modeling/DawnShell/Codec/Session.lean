/-
Module: DawnShell.Codec.Session
Layer: Codec
Purpose: The codec session object of the worker and the operations on it: queueing input and EOS,
  pumping a transcoder, dequeueing output, flushing, requesting a keyframe and reporting statistics.
  Every operation is a `Platform` program, so that all behaviour of the media framework is covered by
  quantifying over its runs.
Trusted boundary: faithful model of dawnshell_codec_ndk.c:120-126, 618-762, 774-812, 876-1092.  The
  worker never passes a null session, output or error pointer, so those guards have no counterpart.
Main exports: CodecSession, Outcome, pumpTranscoder, queueInternal, dscwCodecQueue,
  dscwCodecQueueEos, dscwCodecDequeue, dscwCodecFlush, dscwCodecRequestKeyframe,
  dscwCodecStatistics, dscwCodecDestroy
-/
import DawnShell.Codec.Image

namespace DawnShell

open Wire

def bufferFlagCodecConfig : UInt32 := 2
def bufferFlagEndOfStream : UInt32 := 4
def pixelFormatBitstream : UInt32 := 0
def pixelFormatI420 : UInt32 := 1

structure LatencyCounters where
  samples : UInt64 := 0
  totalUs : UInt64 := 0
  maxUs : UInt64 := 0
deriving DecidableEq, Repr

/-- `struct dscw_codec_session`.  The defaults are the zeroes of `calloc`. -/
structure CodecSession where
  transcoder : Bool := false
  encoder : Bool := false
  inputEos : Bool := false
  encoderEosSignaled : Bool := false
  pendingImage : Bool := false
  width : UInt32 := 0
  height : UInt32 := 0
  frameRate : UInt32 := 0
  colorFormat : UInt32 := 0
  startedNs : UInt64 := 0
  pendingImagePts : UInt64 := 0
  pendingImageFlags : UInt32 := 0
  lastEncoderPts : UInt64 := 0
  haveEncoderPts : Bool := false
  codecName : String := ""
  decoderName : String := ""
  encoderName : String := ""
  codec : Option Handle := none
  imageReader : Option Handle := none
  decoder : Option Handle := none
  transcodeEncoder : Option Handle := none
  encoderInputSurface : Option Handle := none
  inputRecords : UInt64 := 0
  inputFrames : UInt64 := 0
  inputBytes : UInt64 := 0
  inputEosCount : UInt64 := 0
  outputRecords : UInt64 := 0
  outputFrames : UInt64 := 0
  outputBytes : UInt64 := 0
  outputEosCount : UInt64 := 0
  cpuYuvFrames : UInt64 := 0
  surfaceFrames : UInt64 := 0
  inputAgain : UInt64 := 0
  outputAgain : UInt64 := 0
  errors : UInt64 := 0
  formatChanges : UInt64 := 0
  inputLatency : LatencyCounters := {}
  outputLatency : LatencyCounters := {}
deriving DecidableEq, Repr

/-- The result of an operation: the session after it, its status, the error text when it set one, and
the bytes it left in the output buffer. -/
structure Outcome where
  session : CodecSession
  status : Int32
  error : Option String := none
  output : Bytes := []
deriving DecidableEq, Repr

/-- `record_latency`. -/
def recordLatency (counters : LatencyCounters) (started : UInt64) : Platform LatencyCounters := do
  let now : UInt64 ← Platform.call .monotonicNs
  let elapsed := (now - started) / 1000
  pure
    { samples := counters.samples + 1
      totalUs := counters.totalUs + elapsed
      maxUs := if counters.maxUs < elapsed then elapsed else counters.maxUs }

/-! ### Input -/

/-- The attempts of `pump_transcoder` that remain, starting at number `attempt`. -/
def pumpAttempts (timeoutMs : UInt32) : Nat → Nat → CodecSession → Platform Outcome
  | 0, _, session => pure { session, status := codecOk }
  | remaining + 1, attempt, session =>
      if session.encoderEosSignaled then pure { session, status := codecOk }
      else do
        let dequeued : Int × BufferInfo ← Platform.call (.dequeueOutputBuffer session.decoder
          (if attempt = 0 then (timeoutMs.toNat : Int) * 1000 else 0))
        let index := dequeued.1
        let info := dequeued.2
        if index = infoTryAgainLater then pure { session, status := codecOk }
        else if index = infoOutputFormatChanged ∨ index = infoOutputBuffersChanged then
          pumpAttempts timeoutMs remaining (attempt + 1) session
        else if index < 0 then pumpAttempts timeoutMs remaining (attempt + 1) session
        else
          let eos := info.flags &&& bufferFlagEndOfStream != 0
          let render := decide (0 < info.size)
          let session := if render then { session with surfaceFrames := session.surfaceFrames + 1 }
            else session
          let released : MediaStatus ←
            Platform.call (.releaseOutputBuffer session.decoder index.toNat render)
          if released ≠ amediaOk then
            pure { session, status := codecErrorCodec,
                   error := some "could not render decoder output" }
          else if eos then
            let available : Bool ← Platform.call (.optionalSymbol .signalInputEos)
            if !available then
              pure { session, status := codecErrorCodec,
                     error := some "could not signal Surface encoder EOS" }
            else
              let signaled : MediaStatus ←
                Platform.call (.signalEndOfInputStream session.transcodeEncoder)
              if signaled ≠ amediaOk then
                pure { session, status := codecErrorCodec,
                       error := some "could not signal Surface encoder EOS" }
              else pure { session := { session with encoderEosSignaled := true }, status := codecOk }
          else pumpAttempts timeoutMs remaining (attempt + 1) session

/-- `pump_transcoder`. -/
def pumpTranscoder (session : CodecSession) (timeoutMs : UInt32) : Platform Outcome :=
  pumpAttempts timeoutMs 16 0 session

/-- `if (session->transcoder) pump_transcoder(session, 0, ...)`. -/
def pumpIfTranscoder (session : CodecSession) : Platform Outcome :=
  if session.transcoder then pumpTranscoder session 0 else pure { session, status := codecOk }

/-- The codec that takes the input of a session. -/
def CodecSession.inputCodec (session : CodecSession) : Option Handle :=
  if session.transcoder then session.decoder else session.codec

/-- The accounting of an accepted packet. -/
def CodecSession.acceptInput (session : CodecSession) (data : Bytes) (presentationTimeUs : UInt64)
    (flags : UInt32) : CodecSession :=
  let session := { session with
    inputRecords := session.inputRecords + 1
    inputBytes := session.inputBytes + UInt64.ofNat data.length }
  if flags &&& bufferFlagCodecConfig = 0 then
    let session := { session with inputFrames := session.inputFrames + 1 }
    if session.encoder && !session.transcoder then
      { session with haveEncoderPts := true, lastEncoderPts := presentationTimeUs }
    else session
  else session

/-- `queue_internal`. -/
def queueInternal (session : CodecSession) (data : Bytes) (presentationTimeUs : UInt64)
    (flags : UInt32) : Platform Outcome :=
  if session.inputEos then
    pure { session, status := codecErrorSession, error := some "codec input is closed after EOS" }
  else if data.length = 0 ∨ (dscwMaxPayload - 16).toNat < data.length
      ∨ flags &&& ~~~bufferFlagCodecConfig ≠ 0 then
    pure { session, status := codecErrorProtocol, error := some "invalid codec input record" }
  else if session.encoder && !session.transcoder && flags &&& bufferFlagCodecConfig == 0
      && session.haveEncoderPts && decide (presentationTimeUs ≤ session.lastEncoderPts) then
    pure { session, status := codecErrorProtocol,
           error := some "encoder frame PTS must increase monotonically" }
  else do
    let codec := session.inputCodec
    let pumped ← pumpIfTranscoder session
    if pumped.status ≠ codecOk then pure pumped
    else
      let session := pumped.session
      let index : Int ← Platform.call (.dequeueInputBuffer codec 100000)
      if index < 0 then pure { session, status := codecAgain }
      else
        let destination : Option Nat ← Platform.call (.getInputBuffer codec index.toNat)
        if destination.all (fun capacity => decide (capacity < data.length)) then
          let _ : MediaStatus ←
            Platform.call (.queueInputBuffer codec index.toNat [] presentationTimeUs 0)
          pure { session, status := codecErrorLimit,
                 error := some "input packet exceeds MediaCodec buffer capacity" }
        else
          let queued : MediaStatus ← Platform.call (.queueInputBuffer codec index.toNat data
            presentationTimeUs (flags &&& bufferFlagCodecConfig))
          if queued ≠ amediaOk then
            pure { session, status := codecErrorCodec,
                   error := some ("AMediaCodec_queueInputBuffer failed: "
                     ++ toString queued.toInt) }
          else
            let session := session.acceptInput data presentationTimeUs flags
            let pumped ← pumpIfTranscoder session
            if pumped.status ≠ codecOk then pure pumped
            else pure { session := pumped.session, status := codecOk }

/-- The counters `dscw_codec_queue` and `dscw_codec_dequeue` bump from a result: AGAIN on one side,
an error on the other. -/
def CodecSession.countError (session : CodecSession) (status : Int32) : CodecSession :=
  if status < codecOk then { session with errors := session.errors + 1 } else session

/-- `dscw_codec_queue`. -/
def dscwCodecQueue (session : CodecSession) (data : Bytes) (presentationTimeUs : UInt64)
    (flags : UInt32) : Platform Outcome := do
  let started : UInt64 ← Platform.call .monotonicNs
  let result ← queueInternal session data presentationTimeUs flags
  let latency ← recordLatency result.session.inputLatency started
  let session := { result.session with inputLatency := latency }
  if result.status = codecAgain then
    pure { result with session := { session with inputAgain := session.inputAgain + 1 } }
  else pure { result with session := session.countError result.status }

/-- `dscw_codec_queue_eos`. -/
def dscwCodecQueueEos (session : CodecSession) (presentationTimeUs : UInt64) :
    Platform Outcome := do
  let started : UInt64 ← Platform.call .monotonicNs
  if session.inputEos then
    pure { session := { session with errors := session.errors + 1 }, status := codecErrorSession,
           error := some "codec EOS was already queued" }
  else
    let codec := session.inputCodec
    let pumped ← pumpIfTranscoder session
    if pumped.status ≠ codecOk then pure pumped
    else
      let session := pumped.session
      let index : Int ← Platform.call (.dequeueInputBuffer codec 100000)
      if index < 0 then
        let latency ← recordLatency session.inputLatency started
        pure { session := { session with inputAgain := session.inputAgain + 1,
                                         inputLatency := latency },
               status := codecAgain }
      else
        let queued : MediaStatus ← Platform.call (.queueInputBuffer codec index.toNat []
          presentationTimeUs bufferFlagEndOfStream)
        let latency ← recordLatency session.inputLatency started
        let session := { session with inputLatency := latency }
        if queued ≠ amediaOk then
          pure { session := { session with errors := session.errors + 1 },
                 status := codecErrorCodec,
                 error := some ("could not queue codec EOS: " ++ toString queued.toInt) }
        else
          let session := { session with inputEos := true,
                                        inputEosCount := session.inputEosCount + 1 }
          pumpIfTranscoder session

/-! ### Output -/

/-- The data of an output record. -/
def recordData (record : Bytes) : Bytes := record.drop 16

/-- `format_record`.  A negative result is the capacity check. -/
def formatRecord (session : CodecSession) (codec : Option Handle) (capacity : Nat) :
    Platform (Except Failure Bytes) :=
  if capacity < 20 then pure (.error ⟨codecErrorLimit, none⟩)
  else do
    let format : Option OutputFormat ← Platform.call (.getOutputFormat codec)
    let field (read : OutputFormat → Option Int32) (fallback : UInt32) : UInt32 :=
      ((format.bind read).map Int32.toUInt32).getD fallback
    let pixelFormat := if session.encoder || session.transcoder then pixelFormatBitstream
      else pixelFormatI420
    let record := putU32 (List.replicate 20 0) 0 (field OutputFormat.width session.width)
    let record := putU32 record 4 (field OutputFormat.height session.height)
    let record := putU32 record 8 (field OutputFormat.stride session.width)
    let record := putU32 record 12 (field OutputFormat.sliceHeight session.height)
    pure (.ok (putU32 record 16 pixelFormat))

/-- The poll loop of `acquire_image`.  Each round sleeps a millisecond, so that a loop over a timeout
of `polls` milliseconds makes at most `polls` rounds. -/
def acquireAttempts (reader : Option Handle) (deadline : UInt64) :
    Nat → Platform (Except Int32 Image)
  | 0 => pure (.error codecAgain)
  | polls + 1 => do
      let acquired : MediaStatus × Option Image ← Platform.call (.acquireNextImage reader)
      match if acquired.1 = amediaOk then acquired.2 else none with
      | some image => pure (.ok image)
      | none =>
          if acquired.1 ≠ amediaImgreaderNoBufferAvailable then pure (.error codecErrorCodec)
          else
            let _ : Unit ← Platform.call (.usleep 1000)
            let now : UInt64 ← Platform.call .monotonicNs
            if now < deadline then acquireAttempts reader deadline polls
            else pure (.error codecAgain)

/-- `acquire_image`. -/
def acquireImage (session : CodecSession) (timeoutMs : UInt32) :
    Platform (Except Int32 Image) := do
  let now : UInt64 ← Platform.call .monotonicNs
  let timeout : UInt32 := if timeoutMs = 0 then 100 else timeoutMs
  acquireAttempts session.imageReader (now + timeout.toUInt64 * 1000000) timeout.toNat

/-- The sixteen-byte header of an output record. -/
def recordHeader (presentationTimeUs : UInt64) (flags length : UInt32) : Bytes :=
  let record := putU64 (List.replicate 16 0) 0 presentationTimeUs
  let record := putU32 record 8 flags
  putU32 record 12 length

/-- `output_pending_image`. -/
def outputPendingImage (session : CodecSession) (timeoutMs : UInt32) (capacity : Nat) :
    Platform Outcome := do
  let acquired ← acquireImage session timeoutMs
  match acquired with
  | .error status => pure { session, status }
  | .ok image =>
      let normalized := normalizeImage image (capacity - 16)
      let _ : Unit ← Platform.call .deleteImage
      match normalized with
      | .error failure => pure { session, status := failure.status, error := failure.error }
      | .ok pixels =>
          pure
            { session := { session with
                pendingImage := false
                outputRecords := session.outputRecords + 1
                outputFrames := session.outputFrames + 1
                outputBytes := session.outputBytes + UInt64.ofNat pixels.length
                cpuYuvFrames := session.cpuYuvFrames + 1 }
              status := codecOk
              output := recordHeader session.pendingImagePts session.pendingImageFlags
                (UInt32.ofNat pixels.length) ++ pixels }

/-- The accounting of a delivered byte-buffer record. -/
def CodecSession.deliverOutput (session : CodecSession) (info : BufferInfo) : CodecSession :=
  let session :=
    if 0 < info.size then
      let session := { session with
        outputRecords := session.outputRecords + 1
        outputBytes := session.outputBytes + UInt64.ofInt info.size.toInt }
      if info.flags &&& bufferFlagCodecConfig = 0 then
        { session with outputFrames := session.outputFrames + 1 }
      else session
    else session
  if info.flags &&& bufferFlagEndOfStream ≠ 0 then
    { session with outputEosCount := session.outputEosCount + 1 }
  else session

/-- The body of the output loop for a buffer that is not rendered to an image: bounds, copy, release,
accounting. -/
def copyOutputBuffer (session : CodecSession) (codec : Option Handle) (index : Nat)
    (info : BufferInfo) (capacity : Nat) : Platform Outcome :=
  if capacity < (UInt64.ofInt info.size.toInt + 16).toNat ∨ info.offset < 0 then do
    let _ : MediaStatus ← Platform.call (.releaseOutputBuffer codec index false)
    pure { session, status := codecErrorLimit, error := some "codec output exceeds shared slot" }
  else do
    let source : Option Bytes ← Platform.call (.getOutputBuffer codec index)
    let offset := info.offset.toInt.toNat
    let size := info.size.toInt.toNat
    -- `16u + (size_t)info.size`: a size between -16 and -1 passes the check above by wrapping.
    let outputLength := (UInt64.ofInt info.size.toInt + 16).toNat
    if 0 < info.size ∧ source.all (fun buffer => decide (buffer.length < offset + size)) then
      let _ : MediaStatus ← Platform.call (.releaseOutputBuffer codec index false)
      pure { session, status := codecErrorCodec,
             error := some "MediaCodec output buffer is invalid" }
    else
      let data := if 0 < info.size then ((source.getD []).drop offset).take size else []
      let _ : MediaStatus ← Platform.call (.releaseOutputBuffer codec index false)
      pure
        { session := session.deliverOutput info
          status := codecOk
          output := (recordHeader info.presentationTimeUs.toUInt64 info.flags
            info.size.toUInt32 ++ data).take outputLength }

/-- The attempts of the output loop that remain. -/
def dequeueAttempts (codec : Option Handle) (timeoutMs : UInt32) (capacity : Nat) :
    Nat → CodecSession → Platform Outcome
  | 0, session => pure { session, status := codecAgain }
  | remaining + 1, session => do
      let dequeued : Int × BufferInfo ←
        Platform.call (.dequeueOutputBuffer codec ((timeoutMs.toNat : Int) * 1000))
      let index := dequeued.1
      let info := dequeued.2
      if index = infoTryAgainLater then pure { session, status := codecAgain }
      else if index = infoOutputFormatChanged then
        let record ← formatRecord session codec capacity
        match record with
        | .error failure =>
            pure { session, status := failure.status, error := some "output format exceeds limit" }
        | .ok bytes =>
            pure { session := { session with formatChanges := session.formatChanges + 1 },
                   status := codecFormatChanged, output := bytes }
      else if index = infoOutputBuffersChanged ∨ index < 0 then
        dequeueAttempts codec timeoutMs capacity remaining session
      else if !session.encoder && !session.transcoder && decide (0 < info.size) then
        let session := { session with
          pendingImage := true
          pendingImagePts := info.presentationTimeUs.toUInt64
          pendingImageFlags := info.flags }
        let released : MediaStatus ←
          Platform.call (.releaseOutputBuffer codec index.toNat true)
        if released ≠ amediaOk then
          pure { session := { session with pendingImage := false }, status := codecErrorCodec,
                 error := some "could not render decoder image" }
        else outputPendingImage session timeoutMs capacity
      else copyOutputBuffer session codec index.toNat info capacity

/-- `dequeue_internal`. -/
def dequeueInternal (session : CodecSession) (timeoutMs : UInt32) (capacity : Nat) :
    Platform Outcome :=
  if capacity < 20 then
    pure { session, status := codecErrorProtocol, error := some "invalid codec output buffer" }
  else if session.pendingImage then outputPendingImage session timeoutMs capacity
  else if session.transcoder then do
    let pumped ← pumpTranscoder session timeoutMs
    if pumped.status ≠ codecOk then pure pumped
    else dequeueAttempts pumped.session.transcodeEncoder timeoutMs capacity 3 pumped.session
  else dequeueAttempts session.codec timeoutMs capacity 3 session

/-- `dscw_codec_dequeue`. -/
def dscwCodecDequeue (session : CodecSession) (timeoutMs : UInt32) (capacity : Nat) :
    Platform Outcome := do
  let started : UInt64 ← Platform.call .monotonicNs
  let result ← dequeueInternal session timeoutMs capacity
  let latency ← recordLatency result.session.outputLatency started
  let session := { result.session with outputLatency := latency }
  if result.status = codecAgain then
    pure { result with session := { session with outputAgain := session.outputAgain + 1 } }
  else pure { result with session := session.countError result.status }

/-! ### Control -/

/-- `drain_images`. -/
def drainImages : Option Handle → Platform Unit
  | none => pure ()
  | some reader => do
      let _ : Nat ← Platform.call (.drainImages reader)
      pure ()

/-- The platform flushes of `dscw_codec_flush`: decoder then encoder for a transcoder. -/
def flushCodecs (session : CodecSession) : Platform MediaStatus :=
  if session.transcoder then do
    let status : MediaStatus ← Platform.call (.flush session.decoder)
    if status = amediaOk then Platform.call (.flush session.transcodeEncoder) else pure status
  else Platform.call (.flush session.codec)

/-- `dscw_codec_flush`. -/
def dscwCodecFlush (session : CodecSession) : Platform Outcome := do
  let status ← flushCodecs session
  if status ≠ amediaOk then
    pure { session := { session with errors := session.errors + 1 }, status := codecErrorCodec,
           error := some ("AMediaCodec_flush failed: " ++ toString status.toInt) }
  else
    let _ ← drainImages session.imageReader
    pure
      { session := { session with
          inputEos := false
          encoderEosSignaled := false
          pendingImage := false
          haveEncoderPts := false }
        status := codecOk }

/-- `dscw_codec_request_keyframe`. -/
def dscwCodecRequestKeyframe (session : CodecSession) : Platform Outcome :=
  if !session.encoder && !session.transcoder then
    pure { session, status := codecErrorUnsupported,
           error := some "keyframe request requires an encoder" }
  else do
    let available : Bool ← Platform.call (.optionalSymbol .setParameters)
    if !available then
      pure { session, status := codecErrorUnsupported,
             error := some "keyframe request requires Android API 26 or newer" }
    else
      let parameters : Bool ← Platform.call .newFormat
      if !parameters then pure { session, status := codecErrorIo }
      else
        let status : MediaStatus ← Platform.call (.setParametersRequestSync
          (if session.transcoder then session.transcodeEncoder else session.codec))
        if status ≠ amediaOk then
          pure { session := { session with errors := session.errors + 1 },
                 status := codecErrorCodec,
                 error := some ("AMediaCodec_setParameters failed: " ++ toString status.toInt) }
        else pure { session, status := codecOk }

/-- The average a latency record reports. -/
def LatencyCounters.averageUs (counters : LatencyCounters) : UInt64 :=
  if counters.samples = 0 then 0 else counters.totalUs / counters.samples

/-- A quoted JSON key with its value. -/
def jsonField (key value : String) : String := "\"" ++ key ++ "\":" ++ value

/-- The text `dscw_codec_statistics` formats. -/
def statisticsText (session : CodecSession) (sessionId uptimeMs cpuMs : UInt64) : String :=
  let kind := if session.transcoder then "surface_transcoder"
    else if session.encoder then "bytebuffer_encoder" else "bytebuffer_decoder"
  let transport := if session.transcoder then "surface_zero_copy" else "bytebuffer"
  "\x7b" ++ ",".intercalate
    [ jsonField "session_id" (toString sessionId)
    , jsonField "kind" ("\"" ++ kind ++ "\"")
    , jsonField "transport" ("\"" ++ transport ++ "\"")
    , jsonField "media_transport" "\"inherited_memfd_eventfd\""
    , jsonField "input_frames" (toString session.inputFrames)
    , jsonField "output_frames" (toString session.outputFrames)
    , jsonField "surface_frames" (toString session.surfaceFrames)
    , jsonField "cpu_yuv_frames" (toString session.cpuYuvFrames)
    , jsonField "input_records" (toString session.inputRecords)
    , jsonField "output_records" (toString session.outputRecords)
    , jsonField "input_bytes" (toString session.inputBytes)
    , jsonField "output_bytes" (toString session.outputBytes)
    , jsonField "shared_input_bytes" (toString session.inputBytes)
    , jsonField "shared_output_bytes" (toString session.outputBytes)
    , jsonField "input_eos" (toString session.inputEosCount)
    , jsonField "output_eos" (toString session.outputEosCount)
    , jsonField "input_dequeue_timeouts" (toString session.inputAgain)
    , jsonField "output_dequeue_timeouts" (toString session.outputAgain)
    , jsonField "errors" (toString session.errors)
    , jsonField "dropped_frames" "0"
    , jsonField "uptime_ms" (toString uptimeMs)
    , jsonField "process_cpu_time_ms" (toString cpuMs)
    , jsonField "input_call_latency_samples" (toString session.inputLatency.samples)
    , jsonField "input_call_latency_avg_us" (toString session.inputLatency.averageUs)
    , jsonField "input_call_latency_max_us" (toString session.inputLatency.maxUs)
    , jsonField "output_call_latency_samples" (toString session.outputLatency.samples)
    , jsonField "output_call_latency_avg_us" (toString session.outputLatency.averageUs)
    , jsonField "output_call_latency_max_us" (toString session.outputLatency.maxUs) ]
    ++ "\x7d"

/-- The bytes of a text in UTF-8. -/
def textBytes (text : String) : Bytes := text.toUTF8.data.toList

theorem textBytes_append (first second : String) :
    textBytes (first ++ second) = textBytes first ++ textBytes second := by
  simp [textBytes, String.toUTF8]

/-- What `snprintf` into a buffer of `outputSize` bytes returns: the text, or `-1` when it was cut. -/
def printedText (outputSize : Nat) (text : Bytes) : Option Bytes :=
  if outputSize ≤ text.length then none else some text

/-- `dscw_codec_statistics`; `none` is `-1`. -/
def dscwCodecStatistics (session : CodecSession) (sessionId : UInt64) (outputSize : Nat) :
    Platform (Option Bytes) :=
  if outputSize = 0 then pure none
  else do
    let now : UInt64 ← Platform.call .monotonicNs
    let cpuMs : UInt64 ← Platform.call .processCpuMs
    pure (printedText outputSize (textBytes
      (statisticsText session sessionId ((now - session.startedNs) / 1000000) cpuMs)))

/-- `stop_delete_codec` on one handle. -/
def stopDeleteCodec : Option Handle → Platform Unit
  | none => pure ()
  | some codec => do
      let _ : Unit ← Platform.call (.stop codec)
      let _ : Unit ← Platform.call (.deleteCodec codec)
      pure ()

/-- `dscw_codec_destroy`. -/
def dscwCodecDestroy (session : CodecSession) : Platform Unit := do
  stopDeleteCodec session.decoder
  stopDeleteCodec session.transcodeEncoder
  match session.encoderInputSurface with
  | none => pure ()
  | some surface =>
      let _ : Unit ← Platform.call (.releaseWindow surface)
      pure ()
  stopDeleteCodec session.codec
  match session.imageReader with
  | none => pure ()
  | some reader =>
      let _ : Unit ← Platform.call (.deleteImageReader reader)
      pure ()

end DawnShell
