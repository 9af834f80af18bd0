/-
Module: DawnShell.Codec.Pipe
Layer: Codec
Purpose: A pipe session of the codec client: records are read from standard input, queued to the worker
  and drained to standard output until both sides have reached the end of the stream.  The worker, the
  three streams and the allocator are the environment of an `Interaction`; a loop that has no bound in
  the source is given a number of iterations by its caller, and a run that needs more never returns.
Trusted boundary: faithful model of dawnshell_codec_client.c:152-163, 481-490, 636-673, 818-945,
  1272-1294 and 1673-1774; `size_t` has 64 bits
Main exports: RpcAnswer, PipeCall, Pipe, readRecordHeader, convertI420ForEncoder, queueInput, queueEos,
  drainOutput, runPipeSession
-/
import DawnShell.Lib.Interaction
import DawnShell.Lib.Memory
import DawnShell.Codec.Session

namespace DawnShell

open Wire Interaction

def dscbModeEncode : UInt32 := 2
def dscbBufferFlagCodecConfig : UInt32 := 2
def dscbBufferFlagEos : UInt32 := 4
def dscbColorYuv420Planar : UInt32 := 19
def dscbColorYuv420Semiplanar : UInt32 := 21
def dscbColorYuv420Flexible : UInt32 := 0x7f420888

/-! ### The environment -/

/-- What `rpc` leaves in `struct response` when it returns 0. -/
structure RpcAnswer where
  status : Int32
  payload : Bytes
  fits : payload.length ≤ dscwMaxPayload.toNat

/-- The calls a pipe session makes. -/
inductive PipeCall where
  | rpc (type : MessageType) (sessionId : UInt64) (payload : Bytes)
  /-- `fread` from standard input. -/
  | fread (length : Nat)
  /-- `ferror` of standard input. -/
  | ferror
  /-- `fwrite` to standard output. -/
  | fwrite (data : Bytes)
  /-- `fflush` of standard output. -/
  | fflush
  | malloc (length : Nat)
  | usleep (microseconds : Nat)
  /-- A message on standard error. -/
  | stderr (text : Bytes)
  /-- More iterations of a loop than it was given. -/
  | exhausted
deriving DecidableEq

/-- The answer each call returns.  `rpc` answers `none` for `-1`, `malloc` for a null pointer; a fresh
block has arbitrary contents. -/
abbrev PipeCall.Answer : PipeCall → Type
  | .rpc .. => Option RpcAnswer
  | .fread length => { data : Bytes // data.length ≤ length }
  | .ferror => Bool
  | .fwrite _ => Nat
  | .fflush => Bool
  | .malloc _ => Option Memory
  | .usleep _ => Unit
  | .stderr _ => Unit
  | .exhausted => Empty

/-- A part of the client. -/
abbrev Pipe := Interaction PipeCall PipeCall.Answer

/-- The calls a part of the client made and what they answered. -/
abbrev PipeLog := List (Exchange PipeCall PipeCall.Answer)

/-- One call, at its own answer type. -/
abbrev Pipe.call (request : PipeCall) : Pipe request.Answer := Interaction.call request

/-- What a loop does when it has used up its iterations. -/
def Pipe.exhausted {α : Type} : Pipe α := .ask .exhausted fun impossible => nomatch impossible

/-! ### Messages -/

/-- What a pipe session prints on standard error. -/
inductive Diagnostic where
  | transportUnavailable
  | failed (operation : String) (status : Int32) (message : Bytes)
  | sessionStats (text : Bytes)
  | truncatedRecord
  | exceedsLimit
  | truncatedPayload
  | notPackedI420
  | unsupportedColorFormat (colorFormat : UInt32)
  | outputFormat (width height stride sliceHeight pixelFormat : UInt32)
  | malformedFormat
  | malformedRecord
  | lengthMismatch
  | nonMonotonic (pts previous : UInt64)
  | outputTimeout
  | countMismatch (input output : UInt32)

/-- `%.*s`: at most the whole payload, up to its first zero byte. -/
def printedPayload (payload : Bytes) : Bytes := payload.takeWhile (· != 0)

/-- The text of a message behind its program name and before its line end. -/
def Diagnostic.body : Diagnostic → Bytes
  | .transportUnavailable => textBytes "inherited shared transport is unavailable"
  | .failed operation status message =>
      textBytes (operation ++ " failed: status=" ++ toString status) ++
        if message.length = 0 then [] else textBytes " message=" ++ printedPayload message
  | .sessionStats text => textBytes "session-stats=" ++ printedPayload text
  | .truncatedRecord => textBytes "truncated input record"
  | .exceedsLimit => textBytes "input record exceeds protocol limit"
  | .truncatedPayload => textBytes "truncated input payload"
  | .notPackedI420 => textBytes "encoder input must be packed I420"
  | .unsupportedColorFormat colorFormat =>
      textBytes ("unsupported encoder color format=" ++ toString colorFormat)
  | .outputFormat width height stride sliceHeight pixelFormat =>
      textBytes ("output-format width=" ++ toString width ++ " height=" ++ toString height ++
        " stride=" ++ toString stride ++ " slice-height=" ++ toString sliceHeight ++
        " pixel-format=" ++ toString pixelFormat)
  | .malformedFormat => textBytes "malformed output format"
  | .malformedRecord => textBytes "malformed output record"
  | .lengthMismatch => textBytes "output length mismatch"
  | .nonMonotonic pts previous =>
      textBytes ("non-monotonic output PTS=" ++ toString pts ++ " previous=" ++ toString previous)
  | .outputTimeout => textBytes "timed out waiting for output EOS"
  | .countMismatch input output =>
      textBytes ("pipe frame count mismatch input=" ++ toString input ++ " output=" ++
        toString output)

/-- The `fprintf` of a message. -/
def report (diagnostic : Diagnostic) : Pipe Unit :=
  Pipe.call (.stderr (textBytes "dawnshell-codec: " ++ diagnostic.body ++ [10]))

/-- `report_error`. -/
def reportError (operation : String) (response : RpcAnswer) : Pipe Int := do
  report (.failed operation response.status response.payload)
  pure 1

/-! ### Requests -/

/-- `rpc`, with its check of the payload length. -/
def rpc (type : MessageType) (sessionId : UInt64) (payload : Bytes) : Pipe (Option RpcAnswer) :=
  if dscwMaxPayload.toNat < payload.length then pure none
  else Pipe.call (.rpc type sessionId payload)

/-- The result of a request for its status alone. -/
def okOrReport (operation : String) (response : RpcAnswer) : Pipe Int :=
  if response.status = codecOk then pure 0 else reportError operation response

/-- `simple_request`. -/
def simpleRequest (type : MessageType) (sessionId : UInt64) (payload : Bytes) (name : String) :
    Pipe Int := do
  match ← rpc type sessionId payload with
  | none => pure (-1)
  | some response => okOrReport name response

/-- `request_keyframe`. -/
def requestKeyframe (sessionId : UInt64) : Pipe Int :=
  simpleRequest .requestKeyframe sessionId [] "request keyframe"

/-- `report_session_stats`. -/
def reportSessionStats (sessionId : UInt64) : Pipe Int := do
  match ← rpc .sessionStats sessionId [] with
  | none => pure (-1)
  | some response =>
      if response.status = codecOk then do
        report (.sessionStats response.payload)
        pure 0
      else reportError "session stats" response

/-- `close_session`. -/
def Pipe.closeSession (sessionId : UInt64) : Pipe Unit :=
  if sessionId = 0 then pure ()
  else do
    let _ ← simpleRequest .close sessionId [] "close"
    pure ()

/-- The loop of `queue_input` and of `queue_eos`: a request is repeated until it is answered with
something else than AGAIN. -/
def retryRequest (fuel : Nat) (type : MessageType) (sessionId : UInt64) (payload : Bytes)
    (operation : String) : Pipe Int :=
  Interaction.loop Pipe.exhausted (fun (_ : Unit) => do
    match ← rpc type sessionId payload with
    | none => pure (.leave (-1))
    | some response =>
        if response.status = codecAgain then do
          let _ : Unit ← Pipe.call (.usleep 2000)
          pure (.again ())
        else do
          let result ← okOrReport operation response
          pure (.leave result)) fuel ()

/-- `queue_input`. -/
def queueInput (fuel : Nat) (sharedMemorySupported : Bool) (sessionId : UInt64)
    (header data : Bytes) : Pipe Int :=
  if !sharedMemorySupported then do
    report .transportUnavailable
    pure (-1)
  else if dscwMaxPayload.toNat - 16 < data.length then pure (-1)
  else do
    match ← Pipe.call (.malloc (data.length + 16)) with
    | none => pure (-1)
    | some _ => retryRequest fuel .input sessionId (header ++ data) "input"

/-- `queue_eos`. -/
def queueEos (fuel : Nat) (sessionId pts : UInt64) : Pipe Int :=
  retryRequest fuel .eos sessionId (putU64 (List.replicate 8 0) 0 pts) "eos"

/-! ### Input records -/

/-- What `read_record_header` comes back with: `-1`, 0 or 1 and the header. -/
inductive HeaderRead where
  | failed
  | endOfFile
  | header (bytes : Bytes)

/-- One round of the loop of `read_record_header`, with what has been read so far. -/
def readHeaderStep (header : Bytes) : Pipe (Iteration Bytes HeaderRead) :=
  if header.length < 16 then do
    let data ← Pipe.call (.fread (16 - header.length))
    if data.val.length = 0 then do
      let error : Bool ← Pipe.call .ferror
      pure (.leave (if error then .failed else if header.length = 0 then .endOfFile else .failed))
    else pure (.again (header ++ data.val))
  else pure (.leave (.header header))

/-- `read_record_header`.  Every round but the last reads at least one byte. -/
def readRecordHeader : Pipe HeaderRead :=
  Interaction.loop Pipe.exhausted readHeaderStep 17 []

/-- The data of a record; `none` is a failure that has been reported. -/
def readRecordData (length : UInt32) : Pipe (Option Bytes) :=
  if length = 0 then pure (some [])
  else do
    match ← Pipe.call (.malloc length.toNat) with
    | none =>
        report .truncatedPayload
        pure none
    | some _ =>
        let data ← Pipe.call (.fread length.toNat)
        if data.val.length = length.toNat then pure (some data.val)
        else do
          report .truncatedPayload
          pure none

/-- A record, the end of the file, or a failure that has been reported. -/
inductive RecordRead where
  | failed
  | endOfFile
  | record (header data : Bytes)

/-- The first part of an iteration of `run_pipe_session`. -/
def readRecord : Pipe RecordRead := do
  match ← readRecordHeader with
  | .failed =>
      report .truncatedRecord
      pure .failed
  | .endOfFile => pure .endOfFile
  | .header header =>
      if dscwMaxPayload - 16 < getU32 header 12 then do
        report .exceedsLimit
        pure .failed
      else do
        match ← readRecordData (getU32 header 12) with
        | none => pure .failed
        | some data => pure (.record header data)

/-- A record that carries a picture: it is not empty and not codec configuration. -/
def isFrame (flags length : UInt32) : Bool :=
  0 < length && (flags &&& dscbBufferFlagCodecConfig) == 0

/-! ### Conversion -/

/-- The loop over the chroma samples of `convert_i420_for_encoder`. -/
def interleaveChroma (ySize chromaSize : Nat) (i420 converted : Bytes) : Bytes :=
  (List.range chromaSize).foldl (fun converted index =>
    (converted.set (ySize + index * 2) (i420.getD (ySize + index) 0)).set (ySize + index * 2 + 1)
      (i420.getD (ySize + chromaSize + index) 0)) converted

/-- `convert_i420_for_encoder`: what `*encoder_input` points to; `none` is an unsupported format. -/
def convertI420ForEncoder (colorFormat width height : UInt32) (i420 converted : Bytes) :
    Option Bytes :=
  let ySize := width.toNat * height.toNat
  let chromaSize := ySize / 4
  if colorFormat = dscbColorYuv420Semiplanar then
    some (interleaveChroma ySize chromaSize i420 (overwrite converted 0 (i420.take ySize)))
  else if colorFormat ≠ dscbColorYuv420Planar ∧ colorFormat ≠ dscbColorYuv420Flexible then none
  else some i420

/-- The arguments of `run_pipe_session`, and `shared_memory_supported`. -/
structure PipeSession where
  sharedMemorySupported : Bool
  sessionId : UInt64
  mode : UInt32
  colorFormat : UInt32
  width : UInt32
  height : UInt32
  requestSyncFrame : Bool

/-- `codec_input` of a record; `none` is a failure. -/
def codecInput (session : PipeSession) (data : Bytes) : Pipe (Option Bytes) :=
  if session.mode = dscbModeEncode then
    if UInt64.ofNat data.length ≠ session.width.toUInt64 * session.height.toUInt64 * 3 / 2 then do
      report .notPackedI420
      pure none
    else do
      match ← Pipe.call (.malloc data.length) with
      | none => pure none
      | some block =>
          match convertI420ForEncoder session.colorFormat session.width session.height data
              (block.load 0 data.length) with
          | none =>
              report (.unsupportedColorFormat session.colorFormat)
              pure none
          | some input => pure (some input)
  else pure (some data)

/-! ### Output records -/

/-- `struct pipe_output_state`. -/
structure PipeOutputState where
  frames : UInt32 := 0
  previousPts : UInt64 := 0
  havePts : Bool := false
  sawEos : Bool := false
deriving DecidableEq, Repr

/-- The state after an output record has been written. -/
def PipeOutputState.written (state : PipeOutputState) (payload : Bytes) : PipeOutputState :=
  let flags := getU32 payload 8
  let counted := if isFrame flags (getU32 payload 12) then
    { state with
      frames := state.frames + 1
      previousPts := getU64 payload 0
      havePts := true }
    else state
  if (flags &&& dscbBufferFlagEos) ≠ 0 then { counted with sawEos := true } else counted

/-- The branch of `drain_output` for a record that has the length of its data. -/
def writeOutput (payload : Bytes) (state : PipeOutputState) : Pipe (Int × PipeOutputState) := do
  let count : Nat ← Pipe.call (.fwrite payload)
  if count ≠ payload.length then pure (-1, state)
  else do
    let flushed : Bool ← Pipe.call .fflush
    if flushed then pure (0, state.written payload) else pure (-1, state)

/-- The branch of `drain_output` for status OK. -/
def drainRecord (payload : Bytes) (state : PipeOutputState) : Pipe (Int × PipeOutputState) :=
  if payload.length < 16 then do
    report .malformedRecord
    pure (3, state)
  else if getU32 payload 12 ≠ UInt32.ofNat payload.length - 16 then do
    report .lengthMismatch
    pure (3, state)
  else if isFrame (getU32 payload 8) (getU32 payload 12) ∧ state.havePts ∧
      getU64 payload 0 < state.previousPts then do
    report (.nonMonotonic (getU64 payload 0) state.previousPts)
    pure (3, state)
  else writeOutput payload state

/-- The branch of `drain_output` for status FORMAT_CHANGED. -/
def drainFormat (payload : Bytes) (state : PipeOutputState) : Pipe (Int × PipeOutputState) :=
  if payload.length = 20 then do
    report (.outputFormat (getU32 payload 0) (getU32 payload 4) (getU32 payload 8)
      (getU32 payload 12) (getU32 payload 16))
    pure (2, state)
  else do
    report .malformedFormat
    pure (3, state)

/-- `drain_output`. -/
def drainOutput (sessionId : UInt64) (timeoutMs : UInt32) (state : PipeOutputState) :
    Pipe (Int × PipeOutputState) := do
  match ← rpc .output sessionId (putU32 (List.replicate 4 0) 0 timeoutMs) with
  | none => pure (-1, state)
  | some response =>
      if response.status = codecAgain then pure (1, state)
      else if response.status = codecFormatChanged then drainFormat response.payload state
      else if response.status ≠ codecOk then do
        let reported ← reportError "output" response
        pure (reported + 2, state)
      else drainRecord response.payload state

/-- The loop that drains the output after a record was queued. -/
def drainUntilAgain (fuel : Nat) (sessionId : UInt64) (state : PipeOutputState) :
    Pipe (Int × PipeOutputState) :=
  Interaction.loop Pipe.exhausted (fun state => do
    let (drained, next) ← drainOutput sessionId 0 state
    if drained = 1 then pure (.leave (0, next))
    else if drained < 0 ∨ 2 < drained then pure (.leave (1, next))
    else pure (.again next)) fuel state

/-- The loop that waits for the end of the output. -/
def awaitOutputEos (fuel : Nat) (sessionId : UInt64) (state : PipeOutputState) :
    Pipe (Int × PipeOutputState) :=
  Interaction.loop Pipe.exhausted (fun (entry : Nat × PipeOutputState) =>
    if !entry.2.sawEos ∧ entry.1 < 50 then do
      let (drained, next) ← drainOutput sessionId 100 entry.2
      if drained = 1 then pure (.again (entry.1 + 1, next))
      else if drained < 0 ∨ 2 < drained then pure (.leave (1, next))
      else pure (.again (entry.1, next))
    else pure (.leave (0, entry.2))) fuel (0, state)

/-! ### The session -/

/-- The locals of `run_pipe_session`. -/
structure PipeProgress where
  lastPts : UInt64 := 0
  inputFrames : UInt32 := 0
  output : PipeOutputState := {}

/-- An iteration of `run_pipe_session` from the moment the record has been read. -/
def pipeRecord (fuel : Nat) (session : PipeSession) (progress : PipeProgress)
    (header data : Bytes) : Pipe (Iteration PipeProgress (Int × PipeProgress)) :=
  let flags := getU32 header 8
  let progress := { progress with lastPts := getU64 header 0 }
  if (flags &&& dscbBufferFlagEos) ≠ 0 then pure (.leave (0, progress))
  else do
    let progress := if isFrame flags (getU32 header 12)
      then { progress with inputFrames := progress.inputFrames + 1 } else progress
    match ← codecInput session data with
    | none => pure (.leave (1, progress))
    | some input =>
        let queued ← queueInput fuel session.sharedMemorySupported session.sessionId header input
        if queued ≠ 0 then pure (.leave (1, progress))
        else do
          let (result, output) ← drainUntilAgain fuel session.sessionId progress.output
          if result ≠ 0 then pure (.leave (result, { progress with output }))
          else pure (.again { progress with output })

/-- The input loop of `run_pipe_session`. -/
def pipeInput (fuel : Nat) (session : PipeSession) : Pipe (Int × PipeProgress) :=
  Interaction.loop Pipe.exhausted (fun progress => do
    match ← readRecord with
    | .failed => pure (.leave (1, progress))
    | .endOfFile => pure (.leave (0, progress))
    | .record header data => pipeRecord fuel session progress header data) fuel {}

/-- The part of `run_pipe_session` between its two loops. -/
def pipeEos (fuel : Nat) (session : PipeSession) (result : Int) (progress : PipeProgress) :
    Pipe Int :=
  if result = 0 then queueEos fuel session.sessionId progress.lastPts else pure result

/-- The second loop of `run_pipe_session`. -/
def pipeOutput (fuel : Nat) (session : PipeSession) (result : Int) (output : PipeOutputState) :
    Pipe (Int × PipeOutputState) :=
  if result = 0 then awaitOutputEos fuel session.sessionId output else pure (result, output)

/-- The final checks of `run_pipe_session`. -/
def pipeVerdict (result : Int) (inputFrames : UInt32) (output : PipeOutputState) : Pipe Int :=
  if result = 0 then
    if !output.sawEos then do
      report .outputTimeout
      pure 1
    else if inputFrames = 0 ∨ output.frames ≠ inputFrames then do
      report (.countMismatch inputFrames output.frames)
      pure 1
    else pure 0
  else pure result

/-- `run_pipe_session` behind the optional key frame request. -/
def pipeSession (fuel : Nat) (session : PipeSession) : Pipe Int := do
  let (result, progress) ← pipeInput fuel session
  let result ← pipeEos fuel session result progress
  let (result, output) ← pipeOutput fuel session result progress.output
  let result ← pipeVerdict result progress.inputFrames output
  let reported ← reportSessionStats session.sessionId
  Pipe.closeSession session.sessionId
  pure (if reported ≠ 0 then 1 else result)

/-- `run_pipe_session`. -/
def runPipeSession (fuel : Nat) (session : PipeSession) : Pipe Int :=
  if session.requestSyncFrame then do
    let requested ← requestKeyframe session.sessionId
    if requested ≠ 0 then do
      Pipe.closeSession session.sessionId
      pure 1
    else pipeSession fuel session
  else pipeSession fuel session

end DawnShell
