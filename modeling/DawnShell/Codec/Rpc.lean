/-
Module: DawnShell.Codec.Rpc
Layer: Codec
Purpose: The shared-slot RPC between the codec client and its worker, as two threads of control that
  interleave over the control block, the request slot, the response slot and the two event counters.
  The client may give up at any wait; the worker may stop at any point.
Trusted boundary: faithful model of dawnshell_codec_client.c:170-245, 447-479 and of the loop of main in
  dawnshell_codec_worker.c:474-513.  Each access to a control word, a header or a payload is one step;
  poll and read of an event counter are one step, since each counter has one reader.
Main exports: RpcCall, ClientCounters, emitAll, RpcState, RpcLabel, RpcStep
-/
import DawnShell.Codec.Worker
import DawnShell.Lib.Memory
import DawnShell.Lib.Transition

namespace DawnShell

open Wire

/-! ### Requests and their numbers -/

/-- The arguments of an `rpc` call that gets past the size check. -/
structure RpcCall where
  type : UInt16
  sessionId : UInt64
  payload : Bytes
  fits : payload.length ≤ dscwMaxPayload.toNat

/-- The two counters of the client: `next_request_id` and `worker.sequence`. -/
structure ClientCounters where
  nextRequestId : UInt32 := 1
  sequence : UInt32 := 0
deriving DecidableEq, Repr

/-- `++worker.sequence`, once more when that wraps to zero. -/
def advanceSequence (sequence : UInt32) : UInt32 :=
  if sequence + 1 = 0 then sequence + 1 + 1 else sequence + 1

/-- `request_bytes` of a call. -/
def RpcCall.requestBytes (call : RpcCall) : UInt32 :=
  dscwProtocolHeaderBytes + UInt32.ofNat call.payload.length

/-- The header `rpc` builds for a call. -/
def RpcCall.header (call : RpcCall) (requestId : UInt32) : Bytes :=
  makeRequestHeader call.type call.sessionId (UInt32.ofNat call.payload.length) requestId

/-- The request of a call as the worker should see it. -/
def RpcCall.frame (call : RpcCall) (requestId : UInt32) : Bytes :=
  requestFrame call.type call.sessionId requestId call.payload

/-- What a call publishes: the frame in the request slot and its sequence number. -/
structure Emitted where
  frame : Bytes
  sequence : UInt32
deriving DecidableEq, Repr

/-- The counters after a call. -/
def ClientCounters.afterCall (counters : ClientCounters) : ClientCounters where
  nextRequestId := counters.nextRequestId + 1
  sequence := advanceSequence counters.sequence

/-- Everything a client publishes over a list of calls, one after the other. -/
def emitAll (counters : ClientCounters) : List RpcCall → List Emitted
  | [] => []
  | call :: calls =>
      ⟨call.frame counters.nextRequestId, advanceSequence counters.sequence⟩ ::
        emitAll counters.afterCall calls

/-! ### State -/

/-- A call under way: its arguments and the request id it drew. -/
structure Outgoing where
  call : RpcCall
  requestId : UInt32

/-- Where `rpc` is, by what it does next. -/
inductive ClientPhase where
  | idle
  | writeHeader (out : Outgoing)
  | writePayload (out : Outgoing)
  | storeBytes (out : Outgoing)
  | storeSequence (out : Outgoing) (sequence : UInt32)
  | signal (out : Outgoing) (sequence : UInt32)
  | wait (out : Outgoing) (sequence : UInt32)
  | loadSequence (out : Outgoing) (sequence : UInt32)
  | loadBytes (out : Outgoing) (sequence responseSequence : UInt32) (responseSerial : Nat)
  | parseHeader (out : Outgoing) (sequence responseSequence responseBytes : UInt32)
      (responseSerial : Nat)
  | copyPayload (out : Outgoing) (response : Response)

/-- One call of `dispatch_request`: the number of requests published when its sequence was loaded, the
number of headers written when its header was read, its request and its result. -/
structure DispatchRecord where
  loaded : Nat
  content : Nat
  request : Bytes
  result : DispatchResult

/-- The reply the worker is about to publish. -/
structure Reply where
  responseType : UInt16
  responseId : UInt32
  result : DispatchResult

/-- Where the worker loop is, by what it does next.  `loaded` is the number of requests published when
it loaded `request_sequence`, `content` the number of headers written when it read the header. -/
inductive WorkerPhase where
  | idle
  | loadSequence
  | loadBytes (loaded : Nat) (sequence : UInt32)
  | readHeader (loaded : Nat) (sequence requestBytes : UInt32)
  | dispatch (loaded content : Nat) (sequence requestBytes : UInt32) (header : Bytes)
  | writePayload (loaded : Nat) (sequence : UInt32) (reply : Reply)
  | writeHeader (loaded : Nat) (sequence : UInt32) (reply : Reply)
  | storeBytes (loaded : Nat) (sequence : UInt32) (reply : Reply)
  | storeSequence (loaded : Nat) (sequence : UInt32) (reply : Reply)
  | signal
  | stopped

/-- A call that returned 0: the number of requests published by then, which is its own, the call and
the response it filled in. -/
structure ReturnRecord where
  published : Nat
  out : Outgoing
  response : Response

/-- The shared mapping, the event counters, both programs, and the history of the run. -/
structure RpcState where
  requestSlot : Memory := fun _ => 0
  responseSlot : Memory := fun _ => 0
  requestSequence : UInt32 := 0
  requestBytes : UInt32 := 0
  responseSequence : UInt32 := 0
  responseBytes : UInt32 := 0
  requestEvents : Nat := 0
  responseEvents : Nat := 0
  counters : ClientCounters := {}
  client : ClientPhase := .idle
  worker : WorkerPhase := .idle
  workerState : WorkerState
  /-- How many request sequence numbers the client has stored. -/
  published : Nat := 0
  /-- How many request headers the client has written. -/
  written : Nat := 0
  /-- Which published request the response sequence number belongs to. -/
  responseSerial : Nat := 0
  dispatches : List DispatchRecord := []
  returns : List ReturnRecord := []

/-- The request `dispatch_request` works on: the header read before, and the payload in the slot. -/
def RpcState.requestAt (state : RpcState) (header : Bytes) (requestBytes : UInt32) : Bytes :=
  (header ++ state.requestSlot.load 32 (requestBytes.toNat - 32)).take requestBytes.toNat

/-- The type the worker preloads for the response header. -/
def preloadedType (header : Bytes) (requestBytes : UInt32) : UInt16 :=
  if 8 ≤ requestBytes then getU16 header 6 else 0

/-- The id the worker preloads for the response header. -/
def preloadedId (header : Bytes) (requestBytes : UInt32) : UInt32 :=
  if 28 ≤ requestBytes then getU32 header 24 else 0

/-- The header the worker writes for a reply. -/
def Reply.header (reply : Reply) : Bytes :=
  writeResponseHeader reply.responseType reply.result.sessionId
    (UInt32.ofNat reply.result.payload.length) reply.responseId reply.result.status

/-- The `response_bytes` the worker stores for a reply. -/
def Reply.responseBytes (reply : Reply) : UInt32 :=
  UInt32.ofNat (32 + reply.result.payload.length)

/-- The reply to a request that claims more bytes than the slot has. -/
def oversizeReply (header : Bytes) (requestBytes : UInt32) : Reply where
  responseType := preloadedType header requestBytes
  responseId := preloadedId header requestBytes
  result := failure codecErrorLimit 0 dscwMaxPayload.toNat "transport request exceeds shared slot"

/-! ### Steps -/

inductive RpcLabel where
  | begin (call : RpcCall)
  | writeHeader
  | writePayload
  | storeBytes
  | storeSequence
  | signal
  | signalFails
  | wake
  | timeout
  | loadSequence
  | loadBytes
  | parseHeader
  | rejectResponse
  | copyPayload
  | mallocFails
  | workerWake
  | workerLoadSequence
  | workerLoadBytes
  | workerReadHeader
  | workerDispatch
  | workerRefuse
  | workerWritePayload
  | workerWriteHeader
  | workerStoreBytes
  | workerStoreSequence
  | workerSignal
  | workerStop

/-- One step of the client or of the worker. -/
inductive RpcStep (state : RpcState) : RpcLabel → RpcState → Prop where
  | begin (call : RpcCall) (phase : state.client = .idle) :
      RpcStep state (.begin call)
        { state with
          client := .writeHeader ⟨call, state.counters.nextRequestId⟩
          counters := { state.counters with nextRequestId := state.counters.nextRequestId + 1 } }
  | writeHeader {out : Outgoing} (phase : state.client = .writeHeader out) :
      RpcStep state .writeHeader
        { state with
          client := .writePayload out
          requestSlot := state.requestSlot.store 0 (out.call.header out.requestId)
          written := state.written + 1 }
  | writePayload {out : Outgoing} (phase : state.client = .writePayload out) :
      RpcStep state .writePayload
        { state with
          client := .storeBytes out
          requestSlot := state.requestSlot.store 32 out.call.payload }
  | storeBytes {out : Outgoing} (phase : state.client = .storeBytes out) :
      RpcStep state .storeBytes
        { state with
          client := .storeSequence out (advanceSequence state.counters.sequence)
          counters := { state.counters with sequence := advanceSequence state.counters.sequence }
          requestBytes := out.call.requestBytes }
  | storeSequence {out : Outgoing} {sequence : UInt32}
      (phase : state.client = .storeSequence out sequence) :
      RpcStep state .storeSequence
        { state with
          client := .signal out sequence
          requestSequence := sequence
          published := state.published + 1 }
  | signal {out : Outgoing} {sequence : UInt32} (phase : state.client = .signal out sequence) :
      RpcStep state .signal
        { state with
          client := .wait out sequence
          requestEvents := state.requestEvents + 1 }
  | signalFails {out : Outgoing} {sequence : UInt32} (phase : state.client = .signal out sequence) :
      RpcStep state .signalFails { state with client := .idle }
  | wake {out : Outgoing} {sequence : UInt32} (phase : state.client = .wait out sequence)
      (ready : 0 < state.responseEvents) :
      RpcStep state .wake
        { state with client := .loadSequence out sequence, responseEvents := 0 }
  | timeout {out : Outgoing} {sequence : UInt32} (phase : state.client = .wait out sequence) :
      RpcStep state .timeout { state with client := .idle }
  | loadSequence {out : Outgoing} {sequence : UInt32}
      (phase : state.client = .loadSequence out sequence) :
      RpcStep state .loadSequence
        { state with
          client := .loadBytes out sequence state.responseSequence state.responseSerial }
  | loadBytes {out : Outgoing} {sequence responseSequence : UInt32} {responseSerial : Nat}
      (phase : state.client = .loadBytes out sequence responseSequence responseSerial) :
      RpcStep state .loadBytes
        { state with
          client := .parseHeader out sequence responseSequence state.responseBytes responseSerial }
  /-- The sequence numbers agree, the length is in bounds and the header parses. -/
  | parseHeader {out : Outgoing} {sequence responseSequence responseBytes : UInt32}
      {responseSerial : Nat} {response : Response}
      (phase : state.client =
        .parseHeader out sequence responseSequence responseBytes responseSerial)
      (agree : responseSequence = sequence) (bounded : responseBytes ≤ dscwSlotBytes)
      (parsed : parseResponseHeader (state.responseSlot.load 0 32) responseBytes out.call.type
        out.requestId = some response) :
      RpcStep state .parseHeader { state with client := .copyPayload out response }
  | rejectResponse {out : Outgoing} {sequence responseSequence responseBytes : UInt32}
      {responseSerial : Nat}
      (phase : state.client =
        .parseHeader out sequence responseSequence responseBytes responseSerial)
      (rejected : responseSequence ≠ sequence ∨ dscwSlotBytes < responseBytes ∨
        parseResponseHeader (state.responseSlot.load 0 32) responseBytes out.call.type
          out.requestId = none) :
      RpcStep state .rejectResponse { state with client := .idle }
  | copyPayload {out : Outgoing} {response : Response}
      (phase : state.client = .copyPayload out response) :
      RpcStep state .copyPayload
        { state with
          client := .idle
          returns := state.returns ++ [⟨state.published, out, { response with
            payload := state.responseSlot.load 32 response.payloadLength.toNat }⟩] }
  | mallocFails {out : Outgoing} {response : Response}
      (phase : state.client = .copyPayload out response) (needed : 0 < response.payloadLength) :
      RpcStep state .mallocFails { state with client := .idle }
  | workerWake (phase : state.worker = .idle) (ready : 0 < state.requestEvents) :
      RpcStep state .workerWake { state with worker := .loadSequence, requestEvents := 0 }
  | workerLoadSequence (phase : state.worker = .loadSequence) :
      RpcStep state .workerLoadSequence
        { state with worker := .loadBytes state.published state.requestSequence }
  | workerLoadBytes {loaded : Nat} {sequence : UInt32}
      (phase : state.worker = .loadBytes loaded sequence) :
      RpcStep state .workerLoadBytes
        { state with worker := .readHeader loaded sequence state.requestBytes }
  | workerReadHeader {loaded : Nat} {sequence requestBytes : UInt32}
      (phase : state.worker = .readHeader loaded sequence requestBytes) :
      RpcStep state .workerReadHeader
        { state with
          worker := .dispatch loaded state.written sequence requestBytes
            (state.requestSlot.load 0 32) }
  | workerDispatch {loaded content : Nat} {sequence requestBytes : UInt32} {header : Bytes}
      {log : Platform.Log} {dispatched : Dispatched}
      (phase : state.worker = .dispatch loaded content sequence requestBytes header)
      (bounded : requestBytes ≤ dscwSlotBytes)
      (run : (dispatchRequest state.workerState (state.requestAt header requestBytes)
        dscwMaxPayload.toNat (preloadedType header requestBytes)
        (preloadedId header requestBytes)).Runs log dispatched) :
      RpcStep state .workerDispatch
        { state with
          worker := .writePayload loaded sequence
            ⟨dispatched.responseType, dispatched.responseId, dispatched.result⟩
          workerState := dispatched.state
          dispatches := state.dispatches ++
            [⟨loaded, content, state.requestAt header requestBytes, dispatched.result⟩] }
  | workerRefuse {loaded content : Nat} {sequence requestBytes : UInt32} {header : Bytes}
      (phase : state.worker = .dispatch loaded content sequence requestBytes header)
      (oversize : dscwSlotBytes < requestBytes) :
      RpcStep state .workerRefuse
        { state with worker := .writePayload loaded sequence (oversizeReply header requestBytes) }
  | workerWritePayload {loaded : Nat} {sequence : UInt32} {reply : Reply}
      (phase : state.worker = .writePayload loaded sequence reply) :
      RpcStep state .workerWritePayload
        { state with
          worker := .writeHeader loaded sequence reply
          responseSlot := state.responseSlot.store 32 reply.result.payload }
  | workerWriteHeader {loaded : Nat} {sequence : UInt32} {reply : Reply}
      (phase : state.worker = .writeHeader loaded sequence reply) :
      RpcStep state .workerWriteHeader
        { state with
          worker := .storeBytes loaded sequence reply
          responseSlot := state.responseSlot.store 0 reply.header }
  | workerStoreBytes {loaded : Nat} {sequence : UInt32} {reply : Reply}
      (phase : state.worker = .storeBytes loaded sequence reply) :
      RpcStep state .workerStoreBytes
        { state with
          worker := .storeSequence loaded sequence reply
          responseBytes := reply.responseBytes }
  | workerStoreSequence {loaded : Nat} {sequence : UInt32} {reply : Reply}
      (phase : state.worker = .storeSequence loaded sequence reply) :
      RpcStep state .workerStoreSequence
        { state with
          worker := .signal
          responseSequence := sequence
          responseSerial := loaded }
  | workerSignal (phase : state.worker = .signal) :
      RpcStep state .workerSignal
        { state with worker := .idle, responseEvents := state.responseEvents + 1 }
  | workerStop : RpcStep state .workerStop { state with worker := .stopped }

/-- The state after `start_worker`: nothing published, both counters drained. -/
def RpcState.initial (workerState : WorkerState) : RpcState := { workerState }

end DawnShell
