/-
Module: DawnShell.Codec.Worker
Layer: Codec
Purpose: The request dispatcher of the codec worker: the table of at most two codec sessions, the
  creation, use and closing of a session, and the reply to every message type.
Trusted boundary: faithful model of dawnshell_codec_worker.c:39-60, 102-406 and
  dawnshell_codec_ndk.c:1110-1112.  A slot whose id is zero is `none`; the ids are compared as the
  source compares them, zero included.  `set_error` truncates to 255 characters, which no message here
  reaches.
Main exports: LiveSession, WorkerState, findSession, reserveSession, closeSession, dispatchCreate,
  dispatchCreateTranscoder, dispatchSession, dispatchRequest
-/
import DawnShell.Codec.Create
import Mathlib.Logic.Function.Basic
import Mathlib.Data.List.FinRange

namespace DawnShell

open Wire

/-- `DSCB_MAX_SESSIONS`. -/
abbrev dscbMaxSessions : Nat := 2

def descriptionBytes : Nat := 512
def healthBytes : Nat := 512

/-! ### The session table -/

/-- A `struct worker_session` in use: its id is not the sentinel zero and its codec is not null. -/
structure LiveSession where
  id : UInt64
  nonzero : id ≠ 0
  codec : CodecSession

instance sessions_neZero : NeZero dscbMaxSessions := ⟨by decide⟩

/-- `struct worker_state`.  A slot that was never used or was cleared is `none`. -/
structure WorkerState where
  sessions : Fin dscbMaxSessions → Option LiveSession := fun _ => none
  nextSessionId : UInt64 := 0
  startedNs : UInt64 := 0
  requests : UInt64 := 0
  errors : UInt64 := 0

namespace WorkerState

/-- `state->sessions[index].id`. -/
def slotId (state : WorkerState) (index : Fin dscbMaxSessions) : UInt64 :=
  ((state.sessions index).map LiveSession.id).getD 0

/-- A new content for one slot. -/
def setSlot (state : WorkerState) (index : Fin dscbMaxSessions) (slot : Option LiveSession) :
    WorkerState :=
  { state with sessions := Function.update state.sessions index slot }

/-- The ids in the table, in slot order. -/
def liveIds (state : WorkerState) : List UInt64 :=
  (List.finRange dscbMaxSessions).filterMap (fun index => (state.sessions index).map LiveSession.id)

/-- The count `HEALTH` makes. -/
def activeSessions (state : WorkerState) : Nat :=
  (List.finRange dscbMaxSessions).countP (fun index => state.slotId index != 0)

end WorkerState

/-- `find_session`. -/
def findSession (state : WorkerState) (id : UInt64) : Option (Fin dscbMaxSessions) :=
  (List.finRange dscbMaxSessions).find? (fun index => state.slotId index == id)

/-- `reserve_session`. -/
def reserveSession (state : WorkerState) : Option (Fin dscbMaxSessions) :=
  (List.finRange dscbMaxSessions).find? (fun index => state.slotId index == 0)

/-- `close_session`. -/
def closeSession (state : WorkerState) (index : Fin dscbMaxSessions) : Platform WorkerState :=
  match state.sessions index with
  | none => pure state
  | some live => do
      dscwCodecDestroy live.codec
      pure (state.setSlot index none)

/-! ### Replies -/

/-- `struct dispatch_result` with the payload it leaves in the response slot. -/
structure DispatchResult where
  status : Int32
  sessionId : UInt64
  payload : Bytes
deriving DecidableEq, Repr

/-- `copy_text`. -/
def copyText (capacity : Nat) (text : String) : Bytes := (textBytes text).take capacity

/-- `failure`. -/
def failure (status : Int32) (sessionId : UInt64) (capacity : Nat) (message : String) :
    DispatchResult :=
  ⟨status, sessionId, copyText capacity message⟩

/-! ### Creation -/

/-- The id given to a new session: `++next_session_id`, once more when that wraps to zero. -/
def advanceSessionId (nextSessionId : UInt64) : UInt64 :=
  if nextSessionId + 1 = 0 then nextSessionId + 1 + 1 else nextSessionId + 1

theorem advanceSessionId_ne_zero (nextSessionId : UInt64) : advanceSessionId nextSessionId ≠ 0 := by
  unfold advanceSessionId
  split
  next wrapped =>
    rw [wrapped]
    decide
  next nonzero => exact nonzero

/-- The common body of the two create requests: check the length, reserve a slot, create, install. -/
def dispatchCreateWith (create : Platform (Except Failure Created)) (expectedLength : Nat)
    (lengthMessage : String) (state : WorkerState) (payload : Bytes) (capacity : Nat) :
    Platform (WorkerState × DispatchResult) :=
  if payload.length ≠ expectedLength then
    pure (state, failure codecErrorProtocol 0 capacity lengthMessage)
  else
    match reserveSession state with
    | none =>
        pure (state, failure codecErrorLimit 0 capacity "worker codec session limit reached")
    | some slot => do
        let created ← create
        match created with
        | .error error =>
            pure (state, failure error.status 0 capacity (error.error.getD ""))
        | .ok created =>
            let id := advanceSessionId state.nextSessionId
            let live : LiveSession :=
              ⟨id, advanceSessionId_ne_zero state.nextSessionId, created.session⟩
            pure ({ state.setSlot slot (some live) with nextSessionId := id },
              ⟨codecOk, id, copyText capacity created.description⟩)

/-- `dispatch_create`. -/
def dispatchCreate (state : WorkerState) (payload : Bytes) (capacity : Nat) :
    Platform (WorkerState × DispatchResult) :=
  dispatchCreateWith
    (dscwCodecCreate (getU32 payload 0) (getU32 payload 4) (getU32 payload 8) (getU32 payload 12)
      (getU32 payload 16) (getU32 payload 20) (getU32 payload 24) descriptionBytes)
    28 "invalid create request" state payload capacity

/-- `dispatch_create_transcoder`. -/
def dispatchCreateTranscoder (state : WorkerState) (payload : Bytes) (capacity : Nat) :
    Platform (WorkerState × DispatchResult) :=
  dispatchCreateWith
    (dscwCodecCreateTranscoder (getU32 payload 0) (getU32 payload 4) (getU32 payload 8)
      (getU32 payload 12) (getU32 payload 16) (getU32 payload 20) descriptionBytes)
    24 "invalid create transcoder request" state payload capacity

/-! ### Session operations -/

/-- The end of `dispatch_session` after a codec operation: the session object it left, and an error
text or an empty payload. -/
def finishOperation (state : WorkerState) (index : Fin dscbMaxSessions) (live : LiveSession)
    (capacity : Nat) (outcome : Outcome) : WorkerState × DispatchResult :=
  let state := state.setSlot index (some { live with codec := outcome.session })
  if outcome.status < codecOk then
    (state, failure outcome.status live.id capacity
      (outcome.error.getD "codec operation failed"))
  else (state, ⟨outcome.status, live.id, []⟩)

/-- `dispatch_session` on a live session. -/
def dispatchLive (state : WorkerState) (type : UInt16) (index : Fin dscbMaxSessions)
    (live : LiveSession) (payload : Bytes) (capacity : Nat) :
    Platform (WorkerState × DispatchResult) :=
  let refuse (status : Int32) (message : String) : Platform (WorkerState × DispatchResult) :=
    pure (state, failure status live.id capacity message)
  match MessageType.ofCode? type with
  | some .input =>
      if payload.length < 16 ∨ (getU32 payload 12).toNat ≠ payload.length - 16 then
        refuse codecErrorProtocol "input payload length mismatch"
      else if getU32 payload 8 &&& ~~~bufferFlagCodecConfig ≠ 0 then
        refuse codecErrorProtocol "unsupported input flags"
      else do
        let outcome ← dscwCodecQueue live.codec (payload.drop 16) (getU64 payload 0)
          (getU32 payload 8)
        pure (finishOperation state index live capacity outcome)
  | some .output =>
      if payload.length ≠ 4 ∨ 1000 < getU32 payload 0 then
        refuse codecErrorLimit "output timeout must be 0..1000ms"
      else do
        let outcome ← dscwCodecDequeue live.codec (getU32 payload 0) capacity
        if codecOk ≤ outcome.status then
          pure (state.setSlot index (some { live with codec := outcome.session }),
            ⟨outcome.status, live.id, outcome.output⟩)
        else pure (finishOperation state index live capacity outcome)
  | some .eos =>
      if payload.length ≠ 8 then refuse codecErrorProtocol "EOS request must contain pts_us"
      else do
        let outcome ← dscwCodecQueueEos live.codec (getU64 payload 0)
        pure (finishOperation state index live capacity outcome)
  | some .flush =>
      if payload.length ≠ 0 then refuse codecErrorProtocol "flush payload must be empty"
      else do
        let outcome ← dscwCodecFlush live.codec
        pure (finishOperation state index live capacity outcome)
  | some .requestKeyframe =>
      if payload.length ≠ 0 then refuse codecErrorProtocol "keyframe payload must be empty"
      else do
        let outcome ← dscwCodecRequestKeyframe live.codec
        pure (finishOperation state index live capacity outcome)
  | some .sessionStats =>
      if payload.length ≠ 0 then refuse codecErrorProtocol "statistics payload must be empty"
      else do
        let text ← dscwCodecStatistics live.codec live.id capacity
        match text with
        | none => refuse codecErrorIo "could not serialize statistics"
        | some text => pure (state, ⟨codecOk, live.id, text⟩)
  | some .close =>
      if payload.length ≠ 0 then refuse codecErrorProtocol "close payload must be empty"
      else do
        let state ← closeSession state index
        pure (state, ⟨codecOk, live.id, []⟩)
  | _ => refuse codecErrorUnsupported "unsupported session operation"

/-- The live session `dispatch_session` works on: `find_session` must find a slot and the id must not
be the sentinel. -/
def namedSession (state : WorkerState) (sessionId : UInt64) :
    Option (Fin dscbMaxSessions × LiveSession) :=
  if sessionId = 0 then none
  else (findSession state sessionId).bind fun index => (state.sessions index).map (index, ·)

/-- `dispatch_session`. -/
def dispatchSession (state : WorkerState) (type : UInt16) (sessionId : UInt64) (payload : Bytes)
    (capacity : Nat) : Platform (WorkerState × DispatchResult) :=
  match namedSession state sessionId with
  | none => pure (state, failure codecErrorSession sessionId capacity "unknown codec session")
  | some (index, live) => dispatchLive state type index live payload capacity

/-! ### Requests -/

def helloText : String :=
  "\x7b" ++ ",".intercalate
    [ jsonField "protocol" "1"
    , jsonField "transport" (jsonText "inherited_memfd_eventfd")
    , jsonField "worker" (jsonText "ndk_mediacodec")
    , jsonField "public_listener" "false"
    , jsonField "descriptor_transfer" "false"
    , jsonField "max_sessions" "2" ]
    ++ "\x7d"

/-- `dscw_codec_worker_capabilities`. -/
def dscwCodecWorkerCapabilities : String :=
  "\x7b" ++ ",".intercalate
    [ jsonField "protocol" "1"
    , jsonField "worker" (jsonText "ndk_mediacodec")
    , jsonField "transport" (jsonText "inherited_memfd_eventfd")
    , jsonField "public_listener" "false"
    , jsonField "descriptor_transfer" "false"
    , jsonField "decode_output" (jsonText "AImageReader_YUV_420_888_to_I420")
    , jsonField "encode_input" (jsonText "YUV420_ByteBuffer")
    , jsonField "transcode" (jsonText "decoder_Surface_to_encoder_Surface")
    , jsonField "codecs" "[\"video/avc\",\"video/hevc\"]"
    , jsonField "software_fallback" "false" ]
    ++ "\x7d"

/-- The text of a `HEALTH` reply. -/
def healthText (pid : Nat) (uptimeMs : UInt64) (activeSessions : Nat) (requests errors : UInt64) :
    String :=
  "\x7b" ++ ",".intercalate
    [ jsonField "protocol" "1"
    , jsonField "worker_state" (jsonText "ready")
    , jsonField "transport" (jsonText "inherited_memfd_eventfd")
    , jsonField "pid" (toString pid)
    , jsonField "uptime_ms" (toString uptimeMs)
    , jsonField "active_sessions" (toString activeSessions)
    , jsonField "requests" (toString requests)
    , jsonField "request_errors" (toString errors)
    , jsonField "public_listener" "false"
    , jsonField "software_fallback" "false" ]
    ++ "\x7d"

/-- The reply for a formatted text: it must have fit the buffer it was formatted in. -/
def healthResult (capacity : Nat) (text : String) : DispatchResult :=
  if healthBytes ≤ (textBytes text).length then failure codecErrorIo 0 capacity "health serialization failed"
  else ⟨codecOk, 0, copyText capacity text⟩

/-- The `HEALTH` reply to a well-formed request. -/
def dispatchHealth (state : WorkerState) (capacity : Nat) : Platform DispatchResult := do
  let pid : Nat ← Platform.call .getpid
  let now : UInt64 ← Platform.call .monotonicNs
  pure (healthResult capacity (healthText pid ((now - state.startedNs) / 1000000)
    state.activeSessions state.requests state.errors))

/-- The `switch` of `dispatch_request` on a frame that passed the framing checks. -/
def dispatchFramed (state : WorkerState) (type : UInt16) (sessionId : UInt64) (payload : Bytes)
    (capacity : Nat) : Platform (WorkerState × DispatchResult) :=
  match MessageType.ofCode? type with
  | some .hello =>
      pure (state,
        if payload.length ≠ 0 then
          failure codecErrorProtocol 0 capacity "hello payload must be empty"
        else ⟨codecOk, 0, copyText capacity helloText⟩)
  | some .capabilities =>
      pure (state,
        if payload.length ≠ 0 then
          failure codecErrorProtocol 0 capacity "capabilities payload must be empty"
        else ⟨codecOk, 0, copyText capacity dscwCodecWorkerCapabilities⟩)
  | some .health =>
      if payload.length ≠ 0 ∨ sessionId ≠ 0 then
        pure (state, failure codecErrorProtocol 0 capacity
          "health request must be empty and use session 0")
      else do
        let result ← dispatchHealth state capacity
        pure (state, result)
  | some .create =>
      if sessionId ≠ 0 then
        pure (state, failure codecErrorProtocol sessionId capacity "create must use session 0")
      else dispatchCreate state payload capacity
  | some .createTranscoder =>
      if sessionId ≠ 0 then
        pure (state,
          failure codecErrorProtocol sessionId capacity "create transcoder must use session 0")
      else dispatchCreateTranscoder state payload capacity
  | some .inputSharedMemory | some .outputSharedMemory =>
      pure (state, failure codecErrorUnsupported sessionId capacity
        "legacy descriptor transfer is unsupported; use the inherited shared slot")
  | _ => dispatchSession state type sessionId payload capacity

/-- What `dispatch_request` leaves behind: the worker state, its result, and the type and id the
response header is written with. -/
structure Dispatched where
  state : WorkerState
  result : DispatchResult
  responseType : UInt16
  responseId : UInt32

/-- `state->errors++` on a negative status. -/
def WorkerState.countResult (state : WorkerState) (status : Int32) : WorkerState :=
  if status < codecOk then { state with errors := state.errors + 1 } else state

/-- `dispatch_request`.  `responseType` and `responseId` are what the caller put there before. -/
def dispatchRequest (state : WorkerState) (request : Bytes) (capacity : Nat)
    (responseType : UInt16) (responseId : UInt32) : Platform Dispatched :=
  let state := { state with requests := state.requests + 1 }
  if request.length < dscwProtocolHeaderBytes.toNat then
    pure ⟨state.countResult codecErrorProtocol,
      failure codecErrorProtocol 0 capacity "truncated protocol header", responseType, responseId⟩
  else
    let header := decodeRequestHeader request
    if header.framingInvalid request.length then
      let status := if header.version ≠ dscbVersion then dscbErrorVersion else codecErrorProtocol
      pure ⟨state.countResult status,
        failure status header.sessionId capacity "invalid codec protocol request", header.type,
        header.requestId⟩
    else do
      let (after, result) ← dispatchFramed state header.type header.sessionId
        (request.drop dscwProtocolHeaderBytes.toNat) capacity
      pure ⟨after.countResult result.status, result, header.type, header.requestId⟩

end DawnShell
