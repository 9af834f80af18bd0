/-
Module: DawnShell.Proofs.RpcAgreement
Layer: Proofs
Purpose: What a successful `rpc` returns.  As long as the client publishes quietly and the sequence
  numbers compared are less than a period apart, a response that is accepted was computed by one
  dispatch of exactly this call, and nothing changes the response slot while the client reads it.
  A client that publishes while a wake-up is under way can be handed a payload that no dispatch
  produced.
Trusted boundary: none
Main exports: ComparesNear, Agreement, RpcStage, agreement_step, rpc_agreement, rpc_torn_response
-/
import DawnShell.Proofs.RpcDispatch
import DawnShell.Proofs.RpcNumbers
import DawnShell.Proofs.ReplyBounds

namespace DawnShell

open Wire Transition

/-! ### Dispatch of a client frame -/

theorem length_header (call : RpcCall) (requestId : UInt32) : (call.header requestId).length = 32 :=
  Framing.length_makeRequestHeader ..

theorem length_replyHeader (reply : Reply) : reply.header.length = 32 :=
  Framing.length_writeResponseHeader ..

/-- A header that is written at the front of a slot is read back from there. -/
theorem load_store_header {memory : Memory} {header : Bytes} (length : header.length = 32) :
    (memory.store 0 header).load 0 32 = header := by
  rw [← length]
  exact Memory.load_store_same

/-- Writing a response header leaves the payload behind it alone. -/
theorem load_behind_header (memory : Memory) (reply : Reply) {length : Nat} :
    (memory.store 0 reply.header).load 32 length = memory.load 32 length :=
  Memory.load_store_of_disjoint (.inr (Nat.le_of_eq (by rw [length_replyHeader])))

/-- The length that is published is that of the header and the payload; it does not wrap. -/
theorem requestBytes_toNat (call : RpcCall) :
    call.requestBytes.toNat = 32 + call.payload.length := by
  have length := Framing.toNat_ofNat_length call.fits
  have short : ¬dscwMaxPayload < UInt32.ofNat call.payload.length := by
    rw [UInt32.lt_iff_toNat_lt, length]
    exact Nat.not_lt_of_le call.fits
  rw [RpcCall.requestBytes, Framing.headerBytes_add_toNat short, length]

theorem requestBytes_le (call : RpcCall) : call.requestBytes ≤ dscwSlotBytes := by
  have fits := call.fits
  rw [UInt32.le_iff_toNat_le, requestBytes_toNat]
  rw [Framing.dscwMaxPayload_toNat] at fits
  rw [show dscwSlotBytes.toNat = 32 + 8388608 from rfl]
  omega

/-- The reply to a complete header carries the type and the id of the request. -/
theorem dispatched_header {state : WorkerState} {request : Bytes} {capacity : Nat}
    {responseType : UInt16} {responseId : UInt32} {log : Platform.Log} {dispatched : Dispatched}
    (run : (dispatchRequest state request capacity responseType responseId).Runs log dispatched)
    (long : 32 ≤ request.length) :
    dispatched.responseType = (decodeRequestHeader request).type ∧
      dispatched.responseId = (decodeRequestHeader request).requestId := by
  rw [dispatchRequest] at run
  dsimp only at run
  split at run
  next short => exact absurd short (Nat.not_lt_of_le long)
  split at run
  · cases run
    exact ⟨rfl, rfl⟩
  · obtain ⟨_, _, _, _, reply, _⟩ := run.of_bind
    cases reply
    exact ⟨rfl, rfl⟩

/-! ### The invariant -/

/-- The call whose sequence number is the last one published, while `rpc` has not returned. -/
def ClientPhase.outstanding : ClientPhase → Option Outgoing
  | .signal out _ | .wait out _ | .loadSequence out _ | .loadBytes out _ _ _
  | .parseHeader out _ _ _ _ | .copyPayload out _ => some out
  | .idle | .writeHeader _ | .writePayload _ | .storeBytes _ | .storeSequence .. => none

/-- The request slot holds the frame of a call. -/
structure SlotHolds (state : RpcState) (out : Outgoing) : Prop where
  header : state.requestSlot.load 0 32 = out.call.header out.requestId
  payload : state.requestSlot.load 32 out.call.payload.length = out.call.payload

/-- A call is published: slot, length and sequence number are its own. -/
structure Published (state : RpcState) (out : Outgoing) (sequence : UInt32) : Prop where
  slot : SlotHolds state out
  bytes : state.requestBytes = out.call.requestBytes
  counter : state.counters.sequence = sequenceOf state.published
  sequence : sequence = sequenceOf state.published
  positive : 0 < state.published

/-- A dispatch of exactly this call produced the reply. -/
structure Answers (state : RpcState) (out : Outgoing) (reply : Reply) : Prop where
  dispatched : ∃ record ∈ state.dispatches, record.loaded = state.published ∧
    record.request = out.call.frame out.requestId ∧ record.result = reply.result
  type : reply.responseType = out.call.type
  id : reply.responseId = out.requestId
  short : reply.result.payload.length ≤ dscwMaxPayload.toNat

/-- The response slot and its length hold the reply. -/
structure ResponseHolds (state : RpcState) (reply : Reply) : Prop where
  payload : state.responseSlot.load 32 reply.result.payload.length = reply.result.payload
  header : state.responseSlot.load 0 32 = reply.header
  bytes : state.responseBytes = reply.responseBytes

/-- The part of a reply that a client has parsed. -/
def Reply.parsed (reply : Reply) : Response where
  type := reply.responseType ||| dscbResponseBit
  sessionId := reply.result.sessionId
  requestId := reply.responseId
  status := reply.result.status
  payloadLength := UInt32.ofNat reply.result.payload.length
  payload := []

/-- What the worker holds, when it is working on the outstanding call. -/
def WorkerAgrees (state : RpcState) (out : Outgoing) : WorkerPhase → Prop
  | .readHeader loaded _ requestBytes =>
      loaded = state.published → requestBytes = out.call.requestBytes
  | .dispatch loaded _ _ requestBytes header =>
      loaded = state.published →
        requestBytes = out.call.requestBytes ∧ header = out.call.header out.requestId
  | .writePayload loaded _ reply => loaded = state.published → Answers state out reply
  | .writeHeader loaded _ reply =>
      loaded = state.published → Answers state out reply ∧
        state.responseSlot.load 32 reply.result.payload.length = reply.result.payload
  | .storeBytes loaded _ reply =>
      loaded = state.published → Answers state out reply ∧
        state.responseSlot.load 32 reply.result.payload.length = reply.result.payload ∧
        state.responseSlot.load 0 32 = reply.header
  | .storeSequence loaded _ reply =>
      loaded = state.published → Answers state out reply ∧ ResponseHolds state reply
  | .idle | .loadSequence | .loadBytes .. | .signal | .stopped => True

/-- What the client knows at each point of `rpc`. -/
def ClientAgrees (state : RpcState) : ClientPhase → Prop
  | .idle | .writeHeader _ => state.counters.sequence = sequenceOf state.published
  | .writePayload out =>
      state.counters.sequence = sequenceOf state.published ∧
        state.requestSlot.load 0 32 = out.call.header out.requestId
  | .storeBytes out =>
      state.counters.sequence = sequenceOf state.published ∧ SlotHolds state out
  | .storeSequence out sequence =>
      state.counters.sequence = sequenceOf (state.published + 1) ∧
        sequence = sequenceOf (state.published + 1) ∧ SlotHolds state out ∧
        state.requestBytes = out.call.requestBytes
  | .signal out sequence | .wait out sequence | .loadSequence out sequence =>
      Published state out sequence
  | .loadBytes out sequence responseSequence responseSerial =>
      Published state out sequence ∧ responseSequence = sequenceOf responseSerial ∧
        responseSerial ≤ state.published ∧
        (responseSerial = state.published → state.responseSerial = state.published)
  | .parseHeader out sequence responseSequence responseBytes responseSerial =>
      Published state out sequence ∧ responseSequence = sequenceOf responseSerial ∧
        responseSerial ≤ state.published ∧
        (responseSerial = state.published → state.responseSerial = state.published ∧
          responseBytes = state.responseBytes)
  | .copyPayload out response =>
      (∃ sequence, Published state out sequence) ∧ state.responseSerial = state.published ∧
        ∃ reply, Answers state out reply ∧ ResponseHolds state reply ∧ response = reply.parsed

/-- The worker is done with its last answer. -/
def WorkerPhase.settled : WorkerPhase → Bool
  | .idle | .signal | .stopped => true
  | _ => false

/-- The number the worker carries with the serial it loaded. -/
def WorkerPhase.numbered : WorkerPhase → Option (Nat × UInt32)
  | .loadBytes loaded sequence | .readHeader loaded sequence _ | .dispatch loaded _ sequence _ _
  | .writePayload loaded sequence _ | .writeHeader loaded sequence _
  | .storeBytes loaded sequence _ | .storeSequence loaded sequence _ => some (loaded, sequence)
  | .idle | .loadSequence | .signal | .stopped => none

/-- A returned response is the result of a dispatch of its call. -/
def ReturnAgrees (state : RpcState) (returned : ReturnRecord) : Prop :=
  ∃ record ∈ state.dispatches, record.loaded = returned.published ∧
    record.request = returned.out.call.frame returned.out.requestId ∧
      returned.response.sessionId = record.result.sessionId ∧
      returned.response.status = record.result.status ∧
      returned.response.payload = record.result.payload

structure Agreement (state : RpcState) : Prop where
  tokens : TokenInvariant state
  requestSequence : state.requestSequence = sequenceOf state.published
  responseSequence : state.responseSequence = sequenceOf state.responseSerial
  numbered : ∀ loaded sequence, state.worker.numbered = some (loaded, sequence) →
    sequence = sequenceOf loaded
  client : ClientAgrees state state.client
  worker : ∀ out, state.client.outstanding = some out → WorkerAgrees state out state.worker
  answered : ∀ out, state.client.outstanding = some out → state.responseSerial = state.published →
    state.worker.settled = true ∧ ∃ reply, Answers state out reply ∧ ResponseHolds state reply
  returned : ∀ returned ∈ state.returns, ReturnAgrees state returned

/-- Fewer than `2 ^ 32 - 1` requests separate two sequence numbers that are found equal. -/
def ComparesNear (state : RpcState) (label : RpcLabel) : Prop :=
  label = .parseHeader → ∀ out sequence responseSequence responseBytes responseSerial,
    state.client = .parseHeader out sequence responseSequence responseBytes responseSerial →
    state.published - responseSerial < 2 ^ 32 - 1

/-! ### Frames -/

section Frames

variable {state next : RpcState} {out : Outgoing} {reply : Reply}

/-- A reply still answers the last call when there are more dispatches and no other call was published.
-/
theorem Answers.mono (answers : Answers state out reply)
    (published : next.published = state.published)
    (dispatches : ∀ record ∈ state.dispatches, record ∈ next.dispatches) :
    Answers next out reply := by
  obtain ⟨record, member, loaded, same⟩ := answers.dispatched
  exact ⟨⟨record, dispatches record member, loaded.trans published.symm, same⟩, answers.type,
    answers.id, answers.short⟩

/-- Whether the slot holds a reply depends on the slot and its length alone. -/
theorem ResponseHolds.congr (holds : ResponseHolds state reply)
    (slot : next.responseSlot = state.responseSlot)
    (bytes : next.responseBytes = state.responseBytes) : ResponseHolds next reply := by
  constructor
  · rw [slot]
    exact holds.payload
  · rw [slot]
    exact holds.header
  · rw [bytes]
    exact holds.bytes

/-- What was returned still agrees when there are more dispatches. -/
theorem ReturnAgrees.mono {returned : ReturnRecord} (agrees : ReturnAgrees state returned)
    (dispatches : ∀ record ∈ state.dispatches, record ∈ next.dispatches) :
    ReturnAgrees next returned := by
  obtain ⟨record, member, same⟩ := agrees
  exact ⟨record, dispatches record member, same⟩

/-- Whether the slot holds a call depends on the slot alone. -/
theorem SlotHolds.congr (holds : SlotHolds state out)
    (slot : next.requestSlot = state.requestSlot) : SlotHolds next out := by
  constructor
  · rw [slot]
    exact holds.header
  · rw [slot]
    exact holds.payload

/-- Everything the client has written. -/
structure SameRequest (state next : RpcState) : Prop where
  slot : next.requestSlot = state.requestSlot
  bytes : next.requestBytes = state.requestBytes
  counters : next.counters = state.counters
  published : next.published = state.published

/-- What is published depends only on what the client has written. -/
theorem Published.congr {sequence : UInt32} (published : Published state out sequence)
    (same : SameRequest state next) : Published next out sequence := by
  obtain ⟨slot, bytes, counters, serial⟩ := same
  constructor
  · exact published.slot.congr slot
  · rw [bytes]
    exact published.bytes
  · rw [counters, serial]
    exact published.counter
  · rw [serial]
    exact published.sequence
  · rw [serial]
    exact published.positive

/-- A step that leaves the request alone, and the response too once it has been answered, keeps what
the client knows. -/
theorem ClientAgrees.congr {phase : ClientPhase} (agrees : ClientAgrees state phase)
    (same : SameRequest state next)
    (dispatches : ∀ record ∈ state.dispatches, record ∈ next.dispatches)
    (response : state.responseSerial = state.published →
      next.responseSerial = state.responseSerial ∧ next.responseSlot = state.responseSlot ∧
        next.responseBytes = state.responseBytes) : ClientAgrees next phase := by
  have counters := same.counters
  have serial := same.published
  cases phase with
  | idle | writeHeader _ =>
      simp only [ClientAgrees, counters, serial] at agrees ⊢
      exact agrees
  | writePayload out =>
      simp only [ClientAgrees, counters, serial, same.slot] at agrees ⊢
      exact agrees
  | storeBytes out =>
      simp only [ClientAgrees, counters, serial] at agrees ⊢
      exact ⟨agrees.1, agrees.2.congr same.slot⟩
  | storeSequence out sequence =>
      simp only [ClientAgrees, counters, serial, same.bytes] at agrees ⊢
      exact ⟨agrees.1, agrees.2.1, agrees.2.2.1.congr same.slot, agrees.2.2.2⟩
  | signal | wait | loadSequence => exact Published.congr agrees same
  | loadBytes out sequence responseSequence responseSerial =>
      obtain ⟨published, number, below, current⟩ := agrees
      simp only [ClientAgrees, serial]
      exact ⟨published.congr same, number, below, fun last =>
        (response (current last)).1.trans (current last)⟩
  | parseHeader out sequence responseSequence responseBytes responseSerial =>
      obtain ⟨published, number, below, current⟩ := agrees
      simp only [ClientAgrees, serial]
      refine ⟨published.congr same, number, below, fun last => ?_⟩
      obtain ⟨answered, bytes⟩ := current last
      obtain ⟨sameSerial, _, sameBytes⟩ := response answered
      exact ⟨sameSerial.trans answered, bytes.trans sameBytes.symm⟩
  | copyPayload out parsed =>
      obtain ⟨⟨sequence, published⟩, answered, reply, answers, holds, same'⟩ := agrees
      obtain ⟨sameSerial, sameSlot, sameBytes⟩ := response answered
      simp only [ClientAgrees, serial]
      exact ⟨⟨sequence, published.congr same⟩, sameSerial.trans answered, reply,
        answers.mono serial dispatches, holds.congr sameSlot sameBytes, same'⟩

end Frames

section Steps

variable {state next : RpcState} {label : RpcLabel}

/-- While the worker carries a request, the last request published is unanswered. -/
theorem Agreement.unanswered_of_carried (agreement : Agreement state) {loaded : Nat}
    (carries : state.worker.carried = some loaded) : state.responseSerial ≠ state.published := by
  obtain ⟨below, above, _⟩ := agreement.tokens.carried loaded carries
  omega

/-- While a wake-up is to come, the last request published is unanswered. -/
theorem Agreement.unanswered_of_token (agreement : Agreement state) (token : 0 < state.tokens) :
    state.responseSerial ≠ state.published := by
  have single := agreement.tokens.single
  obtain ⟨below, _, _⟩ := agreement.tokens.fresh (by omega)
  omega

/-- What an outstanding call has published is the last request there is, with the sequence number that
the call remembers. -/
theorem Agreement.published_of_outstanding (agreement : Agreement state) {out : Outgoing}
    (outstanding : state.client.outstanding = some out) :
    ∃ sequence, Published state out sequence := by
  have client := agreement.client
  cases phase : state.client with
  | idle | writeHeader | writePayload | storeBytes | storeSequence =>
      rw [phase] at outstanding
      cases outstanding
  | signal | wait | loadSequence =>
      rw [phase] at outstanding client
      cases outstanding
      exact ⟨_, client⟩
  | loadBytes | parseHeader =>
      rw [phase] at outstanding client
      cases outstanding
      exact ⟨_, client.1⟩
  | copyPayload =>
      rw [phase] at outstanding client
      cases outstanding
      exact client.1

/-- Everything the worker has written, and what it is doing. -/
structure SameResponse (state next : RpcState) : Prop where
  worker : next.worker = state.worker
  published : next.published = state.published
  requestSequence : next.requestSequence = state.requestSequence
  sequence : next.responseSequence = state.responseSequence
  serial : next.responseSerial = state.responseSerial
  slot : next.responseSlot = state.responseSlot
  bytes : next.responseBytes = state.responseBytes
  dispatches : next.dispatches = state.dispatches

/-- A step of the client that publishes nothing keeps the agreement when the response slot is left alone
and what the client knows is still true. -/
theorem Agreement.clientFrame (agreement : Agreement state) (tokens : TokenInvariant next)
    (same : SameResponse state next)
    (outstanding : ∀ out, next.client.outstanding = some out →
      state.client.outstanding = some out)
    (client : ClientAgrees next next.client)
    (returned : ∀ returned ∈ next.returns, ReturnAgrees next returned) : Agreement next := by
  have published := same.published
  have subset : ∀ record ∈ state.dispatches, record ∈ next.dispatches := by
    rw [same.dispatches]
    exact fun _ member => member
  refine ⟨tokens, ?_, ?_, ?_, client, ?_, ?_, returned⟩
  · rw [same.requestSequence, published]
    exact agreement.requestSequence
  · rw [same.sequence, same.serial]
    exact agreement.responseSequence
  · rw [same.worker]
    exact agreement.numbered
  · intro out current
    have agrees := agreement.worker out (outstanding out current)
    rw [same.worker]
    cases phase : state.worker with
    | idle | loadSequence | loadBytes | signal | stopped => trivial
    | readHeader | dispatch =>
        rw [phase] at agrees
        simpa only [WorkerAgrees, published] using agrees
    | writePayload =>
        rw [phase] at agrees
        intro last
        exact (agrees (last.trans published)).mono published subset
    | writeHeader | storeBytes =>
        rw [phase] at agrees
        intro last
        obtain ⟨answers, rest⟩ := agrees (last.trans published)
        rw [same.slot]
        exact ⟨answers.mono published subset, rest⟩
    | storeSequence =>
        rw [phase] at agrees
        intro last
        obtain ⟨answers, holds⟩ := agrees (last.trans published)
        exact ⟨answers.mono published subset, holds.congr same.slot same.bytes⟩
  · intro out current last
    rw [same.serial, published] at last
    obtain ⟨settled, reply, answers, holds⟩ := agreement.answered out (outstanding out current) last
    rw [same.worker]
    exact ⟨settled, reply, answers.mono published subset, holds.congr same.slot same.bytes⟩

/-- A step of the worker while the last request published is unanswered: the client has nothing to read
yet, so that only the worker's part is to be shown. -/
theorem Agreement.workerFrame (agreement : Agreement state) (tokens : TokenInvariant next)
    (same : SameRequest state next) (client : next.client = state.client)
    (requestSequence : next.requestSequence = state.requestSequence)
    (responseSequence : next.responseSequence = state.responseSequence)
    (responseSerial : next.responseSerial = state.responseSerial)
    (returns : next.returns = state.returns)
    (dispatches : ∀ record ∈ state.dispatches, record ∈ next.dispatches)
    (unanswered : state.responseSerial ≠ state.published)
    (numbered : ∀ loaded sequence, next.worker.numbered = some (loaded, sequence) →
      sequence = sequenceOf loaded)
    (worker : ∀ out sequence, Published state out sequence →
      state.client.outstanding = some out → WorkerAgrees next out next.worker) :
    Agreement next := by
  refine ⟨tokens, ?_, ?_, numbered, ?_, ?_, ?_, ?_⟩
  · rw [requestSequence, same.published]
    exact agreement.requestSequence
  · rw [responseSequence, responseSerial]
    exact agreement.responseSequence
  · rw [client]
    exact agreement.client.congr same dispatches (fun answered => absurd answered unanswered)
  · intro out outstanding
    rw [client] at outstanding
    obtain ⟨sequence, published⟩ := agreement.published_of_outstanding outstanding
    exact worker out sequence published outstanding
  · intro out outstanding answered
    rw [responseSerial, same.published] at answered
    exact absurd answered unanswered
  · intro returned member
    rw [returns] at member
    exact (agreement.returned returned member).mono dispatches

end Steps

section ClientSteps

variable {state : RpcState}

/-- Storing the sequence number publishes the call, and everything that the worker carries is older from
then on. -/
theorem agreement_storeSequence {out : Outgoing} {sequence : UInt32} (agreement : Agreement state)
    (phase : state.client = .storeSequence out sequence)
    (tokens : TokenInvariant { state with
      client := .signal out sequence, requestSequence := sequence
      published := state.published + 1 }) :
    Agreement { state with
      client := .signal out sequence, requestSequence := sequence
      published := state.published + 1 } := by
  have client := agreement.client
  rw [phase] at client
  obtain ⟨counter, number, slot, bytes⟩ := client
  refine ⟨tokens, number, agreement.responseSequence, agreement.numbered, ?_, ?_, ?_,
    agreement.returned⟩
  · exact ⟨⟨slot.header, slot.payload⟩, bytes, counter, number, Nat.succ_pos _⟩
  · intro other current
    -- Whatever the worker carries was published before.
    have older : ∀ loaded, state.worker.carried = some loaded → loaded ≠ state.published + 1 := by
      intro loaded carries
      have below := (agreement.tokens.carried loaded carries).1
      omega
    cases worker : state.worker with
    | idle | loadSequence | loadBytes | signal | stopped => trivial
    | readHeader loaded | dispatch loaded | writePayload loaded | writeHeader loaded
    | storeBytes loaded | storeSequence loaded =>
        exact fun last => absurd last (older loaded (by rw [worker]; rfl))
  · intro other current answered
    have responded := agreement.tokens.responded
    simp only at answered
    omega

/-- The header of a reply parses to its fields. -/
theorem parse_reply {reply : Reply} (short : reply.result.payload.length ≤ dscwMaxPayload.toNat) :
    parseResponseHeader reply.header reply.responseBytes reply.responseType reply.responseId =
      some reply.parsed := by
  have parsed := Framing.parseResponseHeader_writeResponseHeader reply.responseType
    reply.result.sessionId reply.responseId reply.result.status short []
  rw [List.append_nil] at parsed
  rw [Reply.header, Reply.responseBytes, UInt32.ofNat_add]
  exact parsed

/-- A response that is accepted is the reply to the outstanding call: the sequence numbers are less than
a period apart, so that equal numbers mean one request. -/
theorem Agreement.parsed {out : Outgoing} {sequence responseBytes : UInt32} {responseSerial : Nat}
    {response : Response} (agreement : Agreement state)
    (phase : state.client = .parseHeader out sequence sequence responseBytes responseSerial)
    (near : state.published - responseSerial < 2 ^ 32 - 1)
    (accepted : parseResponseHeader (state.responseSlot.load 0 32) responseBytes out.call.type
      out.requestId = some response) :
    (∃ sequence, Published state out sequence) ∧ state.responseSerial = state.published ∧
      ∃ reply, Answers state out reply ∧ ResponseHolds state reply ∧ response = reply.parsed := by
  have client := agreement.client
  rw [phase] at client
  obtain ⟨published, number, below, current⟩ := client
  have last : responseSerial = state.published :=
    sequenceOf_inj below published.positive near (number.symm.trans published.sequence)
  obtain ⟨answered, bytes⟩ := current last
  have outstanding : state.client.outstanding = some out := by rw [phase]; rfl
  obtain ⟨_, reply, answers, holds⟩ := agreement.answered out outstanding answered
  refine ⟨⟨sequence, published⟩, answered, reply, answers, holds, ?_⟩
  have parsed := parse_reply answers.short
  rw [holds.header, bytes, holds.bytes, ← answers.type, ← answers.id, parsed] at accepted
  exact (Option.some.inj accepted).symm

/-- What `parse_response` copies is the payload of the reply. -/
theorem returnAgrees_of_parsed {out : Outgoing} {reply : Reply} (answers : Answers state out reply)
    (holds : ResponseHolds state reply) :
    ReturnAgrees state ⟨state.published, out, { reply.parsed with
      payload := state.responseSlot.load 32 reply.parsed.payloadLength.toNat }⟩ := by
  obtain ⟨record, member, loaded, request, result⟩ := answers.dispatched
  refine ⟨record, member, loaded, request, ?_, ?_, ?_⟩
  · rw [result]
    rfl
  · rw [result]
    rfl
  · rw [result]
    simp only [Reply.parsed, Framing.toNat_ofNat_length answers.short, holds.payload]

end ClientSteps

/-! ### Steps of the worker -/

section WorkerSteps

variable {state : RpcState}

/-- The frame of a call is what the worker puts together from its header and the slot. -/
theorem requestAt_eq_frame {out : Outgoing} {sequence : UInt32}
    (published : Published state out sequence) :
    state.requestAt (out.call.header out.requestId) out.call.requestBytes =
      out.call.frame out.requestId := by
  rw [RpcState.requestAt, requestBytes_toNat, Nat.add_sub_cancel_left, published.slot.payload,
    List.take_of_length_le]
  · rfl
  · rw [List.length_append, length_header]

/-- Dispatching the frame of the last call produces its answer, since type and id are copied from the
header. -/
theorem answers_of_dispatch {out : Outgoing} {sequence : UInt32} {header : Bytes}
    {requestBytes : UInt32} {log : Platform.Log} {dispatched : Dispatched} {next : RpcState}
    {loaded content : Nat} (published : Published state out sequence)
    (last : loaded = next.published)
    (holds : requestBytes = out.call.requestBytes ∧ header = out.call.header out.requestId)
    (run : (dispatchRequest state.workerState (state.requestAt header requestBytes)
      dscwMaxPayload.toNat (preloadedType header requestBytes)
      (preloadedId header requestBytes)).Runs log dispatched)
    (recorded : (⟨loaded, content, state.requestAt header requestBytes, dispatched.result⟩ :
      DispatchRecord) ∈ next.dispatches) :
    Answers next out ⟨dispatched.responseType, dispatched.responseId, dispatched.result⟩ := by
  obtain ⟨rfl, rfl⟩ := holds
  have frame := requestAt_eq_frame published
  have long : 32 ≤ (out.call.frame out.requestId).length := by
    rw [RpcCall.frame, Framing.length_requestFrame]
    omega
  rw [frame] at run recorded
  obtain ⟨type, id⟩ := dispatched_header run long
  rw [RpcCall.frame, Framing.decodeRequestHeader_requestFrame] at type id
  exact ⟨⟨_, recorded, last, rfl, rfl⟩, type, id, dispatched_bounded run⟩

/-- Storing the response number answers the request that the worker carries, with the slot and its
length complete. -/
theorem agreement_storeResponse {loaded : Nat} {sequence : UInt32} {reply : Reply}
    (agreement : Agreement state) (phase : state.worker = .storeSequence loaded sequence reply)
    (tokens : TokenInvariant { state with
      worker := .signal, responseSequence := sequence, responseSerial := loaded }) :
    Agreement { state with
      worker := .signal, responseSequence := sequence, responseSerial := loaded } := by
  have carries : state.worker.carried = some loaded := by rw [phase]; rfl
  have unanswered := agreement.unanswered_of_carried carries
  refine ⟨tokens, agreement.requestSequence, ?_, ?_, ?_, fun _ _ => trivial, ?_,
    agreement.returned⟩
  · exact agreement.numbered loaded sequence (by rw [phase]; rfl)
  · exact fun _ _ impossible => nomatch impossible
  · exact agreement.client.congr ⟨rfl, rfl, rfl, rfl⟩ (fun _ member => member)
      (fun answered => absurd answered unanswered)
  · intro out outstanding last
    have agrees := agreement.worker out outstanding
    rw [phase] at agrees
    obtain ⟨answers, holds⟩ := agrees last
    exact ⟨rfl, reply, answers.mono rfl fun _ member => member, holds.congr rfl rfl⟩

end WorkerSteps

/-! ### Groups of steps -/

section Runs

variable {state next : RpcState} {label : RpcLabel}

/-- What the client knows at its present phase. -/
theorem Agreement.client_at {phase : ClientPhase} (agreement : Agreement state)
    (now : state.client = phase) : ClientAgrees state phase :=
  now ▸ agreement.client

/-- What the worker holds at its present phase. -/
theorem Agreement.worker_at {phase : WorkerPhase} {out : Outgoing} (agreement : Agreement state)
    (now : state.worker = phase) (outstanding : state.client.outstanding = some out) :
    WorkerAgrees state out phase :=
  now ▸ agreement.worker out outstanding

/-- The worker comes to rest without touching anything it shares with a response. -/
theorem Agreement.settle (agreement : Agreement state) (tokens : TokenInvariant next)
    (same : SameRequest state next) (client : next.client = state.client)
    (requestSequence : next.requestSequence = state.requestSequence)
    (responseSequence : next.responseSequence = state.responseSequence)
    (responseSerial : next.responseSerial = state.responseSerial)
    (slot : next.responseSlot = state.responseSlot)
    (bytes : next.responseBytes = state.responseBytes) (returns : next.returns = state.returns)
    (dispatches : next.dispatches = state.dispatches) (settled : next.worker.settled = true) :
    Agreement next := by
  have subset : ∀ record ∈ state.dispatches, record ∈ next.dispatches := by
    rw [dispatches]
    exact fun _ member => member
  refine ⟨tokens, ?_, ?_, ?_, ?_, ?_, ?_, ?_⟩
  · rw [requestSequence, same.published]
    exact agreement.requestSequence
  · rw [responseSequence, responseSerial]
    exact agreement.responseSequence
  · intro loaded sequence numbered
    cases phase : next.worker <;> rw [phase] at settled numbered <;> contradiction
  · rw [client]
    exact agreement.client.congr same subset fun _ => ⟨responseSerial, slot, bytes⟩
  · intro out _
    cases phase : next.worker <;> first | trivial | (rw [phase] at settled; contradiction)
  · intro out outstanding answered
    rw [client] at outstanding
    rw [responseSerial, same.published] at answered
    obtain ⟨_, reply, answers, holds⟩ := agreement.answered out outstanding answered
    exact ⟨settled, reply, answers.mono same.published subset, holds.congr slot bytes⟩
  · intro returned member
    rw [returns] at member
    exact (agreement.returned returned member).mono subset

/-- What a step does to the request and to its answer. -/
inductive RpcStage where
  | build
  | publish
  | follow
  | parse
  | deliver
  | abandon
  | take
  | answer
  | write
  | respond
  | settle
deriving DecidableEq

/-- The client builds and publishes a request, follows it to the response and parses, delivers or
abandons that; the worker takes the request up, answers it, writes the answer and responds. -/
def RpcLabel.stage : RpcLabel → RpcStage
  | .begin _ | .writeHeader | .writePayload | .storeBytes => .build
  | .storeSequence => .publish
  | .signal | .wake | .loadSequence | .loadBytes => .follow
  | .parseHeader => .parse
  | .copyPayload => .deliver
  | .signalFails | .timeout | .rejectResponse | .mallocFails => .abandon
  | .workerWake | .workerLoadSequence | .workerLoadBytes | .workerReadHeader => .take
  | .workerDispatch | .workerRefuse => .answer
  | .workerWritePayload | .workerWriteHeader | .workerStoreBytes => .write
  | .workerStoreSequence => .respond
  | .workerSignal | .workerStop => .settle

/-- Until its sequence number is stored a request is the client's alone: what is in the slot concerns
no answer. -/
theorem agreement_build (agreement : Agreement state) (tokens : TokenInvariant next)
    (stage : label.stage = .build) (step : RpcStep state label next) : Agreement next := by
  cases step with
  | begin call phase =>
      have client := agreement.client_at phase
      exact agreement.clientFrame tokens ⟨rfl, rfl, rfl, rfl, rfl, rfl, rfl, rfl⟩
        (fun _ impossible => by cases impossible) client agreement.returned
  | writeHeader phase =>
      have client := agreement.client_at phase
      refine agreement.clientFrame tokens ⟨rfl, rfl, rfl, rfl, rfl, rfl, rfl, rfl⟩
        (fun _ impossible => by cases impossible) ⟨client, ?_⟩ agreement.returned
      rw [load_store_header (length_header ..)]
  | writePayload phase =>
      obtain ⟨counter, header⟩ := agreement.client_at phase
      refine agreement.clientFrame tokens ⟨rfl, rfl, rfl, rfl, rfl, rfl, rfl, rfl⟩
        (fun _ impossible => by cases impossible) ⟨counter, ?_, ?_⟩ agreement.returned
      · exact (Memory.load_store_of_disjoint (.inl (Nat.le_refl 32))).trans header
      · exact Memory.load_store_same
  | storeBytes phase =>
      obtain ⟨counter, slot⟩ := agreement.client_at phase
      have advanced : advanceSequence state.counters.sequence =
          sequenceOf (state.published + 1) := by rw [counter, sequenceOf_succ]
      exact agreement.clientFrame tokens ⟨rfl, rfl, rfl, rfl, rfl, rfl, rfl, rfl⟩
        (fun _ impossible => by cases impossible) ⟨advanced, advanced, slot.congr rfl, rfl⟩
        agreement.returned
  | _ => cases stage

/-- A client that follows its request to the response knows which request the numbers it has read belong
to, and that the response is answered if they are the last. -/
theorem agreement_follow (agreement : Agreement state) (tokens : TokenInvariant next)
    (stage : label.stage = .follow) (step : RpcStep state label next) : Agreement next := by
  cases step with
  | signal phase | wake phase =>
      have client := agreement.client_at phase
      refine agreement.clientFrame tokens ⟨rfl, rfl, rfl, rfl, rfl, rfl, rfl, rfl⟩ ?_
        (Published.congr client ⟨rfl, rfl, rfl, rfl⟩) agreement.returned
      intro out current
      rw [phase]
      exact current
  | loadSequence phase =>
      have client := agreement.client_at phase
      refine agreement.clientFrame tokens ⟨rfl, rfl, rfl, rfl, rfl, rfl, rfl, rfl⟩ ?_
        ⟨Published.congr client ⟨rfl, rfl, rfl, rfl⟩, agreement.responseSequence,
          agreement.tokens.responded, id⟩ agreement.returned
      intro out current
      rw [phase]
      exact current
  | loadBytes phase =>
      obtain ⟨published, number, below, answered⟩ := agreement.client_at phase
      refine agreement.clientFrame tokens ⟨rfl, rfl, rfl, rfl, rfl, rfl, rfl, rfl⟩ ?_
        ⟨published.congr ⟨rfl, rfl, rfl, rfl⟩, number, below,
          fun last => ⟨answered last, rfl⟩⟩ agreement.returned
      intro out current
      rw [phase]
      exact current
  | _ => cases stage

/-- A header that parses is the header of the reply to the outstanding call. -/
theorem agreement_parse (agreement : Agreement state) (tokens : TokenInvariant next)
    (near : ComparesNear state label) (stage : label.stage = .parse)
    (step : RpcStep state label next) : Agreement next := by
  cases step with
  | parseHeader phase agree bounded accepted =>
      subst agree
      obtain ⟨⟨sequence, published⟩, answered, reply, answers, holds, same⟩ :=
        agreement.parsed phase (near rfl _ _ _ _ _ phase) accepted
      refine agreement.clientFrame tokens ⟨rfl, rfl, rfl, rfl, rfl, rfl, rfl, rfl⟩ ?_
        ⟨⟨sequence, published.congr ⟨rfl, rfl, rfl, rfl⟩⟩, answered, reply,
          answers.mono rfl fun _ member => member, holds.congr rfl rfl, same⟩ agreement.returned
      intro out current
      rw [phase]
      exact current
  | _ => cases stage

/-- What `rpc` returns is the result of the dispatch that produced the reply in the slot. -/
theorem agreement_deliver (agreement : Agreement state) (tokens : TokenInvariant next)
    (stage : label.stage = .deliver) (step : RpcStep state label next) : Agreement next := by
  cases step with
  | copyPayload phase =>
      obtain ⟨⟨_, published⟩, answered, reply, answers, holds, rfl⟩ := agreement.client_at phase
      refine agreement.clientFrame tokens ⟨rfl, rfl, rfl, rfl, rfl, rfl, rfl, rfl⟩
        (fun _ impossible => by cases impossible) published.counter ?_
      intro returned member
      rcases List.mem_append.mp member with before | now
      · exact (agreement.returned returned before).mono fun _ member => member
      · rw [List.mem_singleton.mp now]
        exact (returnAgrees_of_parsed answers holds).mono fun _ member => member
  | _ => cases stage

/-- A client that abandons its call leaves everything it has written, its counter included, as
published. -/
theorem agreement_abandon (agreement : Agreement state) (tokens : TokenInvariant next)
    (stage : label.stage = .abandon) (step : RpcStep state label next) : Agreement next := by
  cases step with
  | signalFails phase | timeout phase =>
      have client := agreement.client_at phase
      exact agreement.clientFrame tokens ⟨rfl, rfl, rfl, rfl, rfl, rfl, rfl, rfl⟩
        (fun _ impossible => by cases impossible) client.counter agreement.returned
  | rejectResponse phase =>
      obtain ⟨published, _⟩ := agreement.client_at phase
      exact agreement.clientFrame tokens ⟨rfl, rfl, rfl, rfl, rfl, rfl, rfl, rfl⟩
        (fun _ impossible => by cases impossible) published.counter agreement.returned
  | mallocFails phase =>
      obtain ⟨⟨_, published⟩, _⟩ := agreement.client_at phase
      exact agreement.clientFrame tokens ⟨rfl, rfl, rfl, rfl, rfl, rfl, rfl, rfl⟩
        (fun _ impossible => by cases impossible) published.counter agreement.returned
  | _ => cases stage

/-- A worker that takes a request up while it is the last one published reads the frame of its call. -/
theorem agreement_take (agreement : Agreement state) (tokens : TokenInvariant next)
    (stage : label.stage = .take) (step : RpcStep state label next) : Agreement next := by
  cases step with
  | workerWake phase ready =>
      have token : 0 < state.tokens := by
        rw [RpcState.tokens]
        omega
      exact agreement.workerFrame tokens ⟨rfl, rfl, rfl, rfl⟩ rfl rfl rfl rfl rfl
        (fun _ member => member) (agreement.unanswered_of_token token)
        (fun _ _ impossible => by cases impossible) (fun _ _ _ _ => trivial)
  | workerLoadSequence phase =>
      have token : 0 < state.tokens := by
        rw [RpcState.tokens, phase, WorkerPhase.waking]
        omega
      refine agreement.workerFrame tokens ⟨rfl, rfl, rfl, rfl⟩ rfl rfl rfl rfl rfl
        (fun _ member => member) (agreement.unanswered_of_token token) ?_ (fun _ _ _ _ => trivial)
      intro loaded sequence same
      cases same
      exact agreement.requestSequence
  | workerLoadBytes phase =>
      refine agreement.workerFrame tokens ⟨rfl, rfl, rfl, rfl⟩ rfl rfl rfl rfl rfl
        (fun _ member => member) (agreement.unanswered_of_carried (by rw [phase]; rfl)) ?_ ?_
      · intro loaded sequence same
        exact agreement.numbered loaded sequence (by rw [phase]; exact same)
      · exact fun out sequence published outstanding last => published.bytes
  | workerReadHeader phase =>
      refine agreement.workerFrame tokens ⟨rfl, rfl, rfl, rfl⟩ rfl rfl rfl rfl rfl
        (fun _ member => member) (agreement.unanswered_of_carried (by rw [phase]; rfl)) ?_ ?_
      · intro loaded sequence same
        exact agreement.numbered loaded sequence (by rw [phase]; exact same)
      · intro out sequence published outstanding last
        exact ⟨agreement.worker_at phase outstanding last, published.slot.header⟩
  | _ => cases stage

/-- The reply to the last request published is the result of dispatching its frame; a call is never too
long for its slot. -/
theorem agreement_answer (agreement : Agreement state) (tokens : TokenInvariant next)
    (stage : label.stage = .answer) (step : RpcStep state label next) : Agreement next := by
  cases step with
  | workerDispatch phase bounded run =>
      refine agreement.workerFrame tokens ⟨rfl, rfl, rfl, rfl⟩ rfl rfl rfl rfl rfl
        (fun _ member => List.mem_append_left _ member)
        (agreement.unanswered_of_carried (by rw [phase]; rfl)) ?_ ?_
      · intro loaded sequence same
        exact agreement.numbered loaded sequence (by rw [phase]; exact same)
      · intro out sequence published outstanding last
        have holds := agreement.worker_at phase outstanding last
        exact answers_of_dispatch published last holds run
          (List.mem_append_right _ (List.mem_singleton.mpr rfl))
  | workerRefuse phase oversize =>
      refine agreement.workerFrame tokens ⟨rfl, rfl, rfl, rfl⟩ rfl rfl rfl rfl rfl
        (fun _ member => member) (agreement.unanswered_of_carried (by rw [phase]; rfl)) ?_ ?_
      · intro loaded sequence same
        exact agreement.numbered loaded sequence (by rw [phase]; exact same)
      · intro out sequence published outstanding last
        -- The length of a call always fits the slot.
        have holds := agreement.worker_at phase outstanding last
        rw [holds.1] at oversize
        exact absurd (requestBytes_le out.call) (UInt32.not_le.mpr oversize)
  | _ => cases stage

/-- The worker writes its reply from the back: what it has written stays while it writes the rest. -/
theorem agreement_write (agreement : Agreement state) (tokens : TokenInvariant next)
    (stage : label.stage = .write) (step : RpcStep state label next) : Agreement next := by
  cases step with
  | workerWritePayload phase =>
      refine agreement.workerFrame tokens ⟨rfl, rfl, rfl, rfl⟩ rfl rfl rfl rfl rfl
        (fun _ member => member) (agreement.unanswered_of_carried (by rw [phase]; rfl)) ?_ ?_
      · intro loaded sequence same
        exact agreement.numbered loaded sequence (by rw [phase]; exact same)
      · intro out sequence published outstanding last
        have answers := agreement.worker_at phase outstanding last
        exact ⟨answers.mono rfl fun _ member => member, Memory.load_store_same⟩
  | @workerWriteHeader _ _ reply phase =>
      refine agreement.workerFrame tokens ⟨rfl, rfl, rfl, rfl⟩ rfl rfl rfl rfl rfl
        (fun _ member => member) (agreement.unanswered_of_carried (by rw [phase]; rfl)) ?_ ?_
      · intro loaded sequence same
        exact agreement.numbered loaded sequence (by rw [phase]; exact same)
      · intro out sequence published outstanding last
        obtain ⟨answers, payload⟩ := agreement.worker_at phase outstanding last
        refine ⟨answers.mono rfl fun _ member => member, ?_, ?_⟩
        · rw [load_behind_header state.responseSlot reply]
          exact payload
        · rw [load_store_header (length_replyHeader reply)]
  | workerStoreBytes phase =>
      refine agreement.workerFrame tokens ⟨rfl, rfl, rfl, rfl⟩ rfl rfl rfl rfl rfl
        (fun _ member => member) (agreement.unanswered_of_carried (by rw [phase]; rfl)) ?_ ?_
      · intro loaded sequence same
        exact agreement.numbered loaded sequence (by rw [phase]; exact same)
      · intro out sequence published outstanding last
        obtain ⟨answers, payload, header⟩ := agreement.worker_at phase outstanding last
        exact ⟨answers.mono rfl fun _ member => member, payload, header, rfl⟩
  | _ => cases stage

/-- Publishing and responding are single steps; all others belong to a group whose lemma they are
given to. -/
theorem agreement_step (agreement : Agreement state) (quiet : PublishesQuietly state label)
    (near : ComparesNear state label) (step : RpcStep state label next) : Agreement next := by
  have tokens := tokenInvariant_step agreement.tokens quiet step
  cases stage : label.stage with
  | build => exact agreement_build agreement tokens stage step
  | publish =>
      cases step with
      | storeSequence phase => exact agreement_storeSequence agreement phase tokens
      | _ => cases stage
  | follow => exact agreement_follow agreement tokens stage step
  | parse => exact agreement_parse agreement tokens near stage step
  | deliver => exact agreement_deliver agreement tokens stage step
  | abandon => exact agreement_abandon agreement tokens stage step
  | take => exact agreement_take agreement tokens stage step
  | answer => exact agreement_answer agreement tokens stage step
  | write => exact agreement_write agreement tokens stage step
  | respond =>
      cases step with
      | workerStoreSequence phase => exact agreement_storeResponse agreement phase tokens
      | _ => cases stage
  | settle =>
      cases step with
      | workerSignal phase | workerStop =>
          exact agreement.settle tokens ⟨rfl, rfl, rfl, rfl⟩ rfl rfl rfl rfl rfl rfl rfl rfl rfl
      | _ => cases stage

/-- Before the first call there is nothing to agree on. -/
theorem agreement_initial (workerState : WorkerState) : Agreement (.initial workerState) := by
  refine ⟨tokenInvariant_initial workerState, rfl, rfl, ?_, rfl, ?_, ?_, ?_⟩
  · exact fun _ _ impossible => nomatch impossible
  · exact fun _ impossible => nomatch impossible
  · exact fun _ impossible => nomatch impossible
  · exact fun _ impossible => nomatch impossible

end Runs

/-! ### Short runs -/

section Few

variable {state next : RpcState} {label : RpcLabel}

theorem published_le_of_step (step : RpcStep state label next) :
    state.published ≤ next.published := by
  cases step with
  | storeSequence phase => exact Nat.le_succ _
  | _ => exact Nat.le_refl _

/-- A run that has published fewer than `2 ^ 32 - 1` requests compares no numbers further apart. -/
theorem meets_comparesNear_of_published {first : RpcState} {trace : List (RpcState × RpcLabel)}
    (run : Run RpcStep first trace state) (few : state.published < 2 ^ 32 - 1) :
    Meets ComparesNear trace := by
  induction run with
  | start => exact fun _ impossible => nomatch impossible
  | step before step ih =>
      have grows := published_le_of_step step
      refine meets_append.mpr ⟨ih (by omega), ?_⟩
      intro _ _ _ _ _ _ _
      omega

end Few

/-- In every run in which the client stores a sequence number only when no wake-up is pending and the
worker is not between its wake-up and its load of that number, and in which fewer than `2 ^ 32 - 1`
requests separate the sequence numbers found equal, every call that returned 0 returned the session
id, the status and the payload that one dispatch of exactly its own frame produced; the dispatch was
made for this call and not for an earlier one. -/
theorem rpc_agreement {workerState : WorkerState} {trace : List (RpcState × RpcLabel)}
    {state : RpcState} (run : Run RpcStep (.initial workerState) trace state)
    (quiet : Meets PublishesQuietly trace) (near : Meets ComparesNear trace) :
    ∀ returned ∈ state.returns, ∃ record ∈ state.dispatches,
      record.loaded = returned.published ∧
      record.request = requestFrame returned.out.call.type returned.out.call.sessionId
        returned.out.requestId returned.out.call.payload ∧
      returned.response.sessionId = record.result.sessionId ∧
      returned.response.status = record.result.status ∧
      returned.response.payload = record.result.payload := by
  have both : Meets (fun state label => PublishesQuietly state label ∧ ComparesNear state label)
      trace := fun entry member => ⟨quiet entry member, near entry member⟩
  have agreement : Agreement state :=
    run.invariant both (agreement_initial workerState) fun _ _ _ holds conditions step =>
      agreement_step holds conditions.1 conditions.2 step
  exact agreement.returned

/-- A platform without memory for a session. -/
def noMemory : (call : Platform.Call) → Platform.Answer call
  | .calloc => false
  | call => Platform.allSucceed call

/-- A platform that has no image reader. -/
def noReader : (call : Platform.Call) → Platform.Answer call
  | .newImageReader .. => (amediaOk, none)
  | .optionalSymbol _ => false
  | call => Platform.allSucceed call

/-- A request for an H.264 decoder of 64 by 64 pixels. -/
def createCall : RpcCall where
  type := MessageType.create.code
  sessionId := 0
  payload := BigEndian.encodeFields
    [(4, 1), (4, 1), (4, 64), (4, 64), (4, 30), (4, 1000000), (4, 0)]
  fits := by decide

/-- A create request that fails for want of memory returns the status and the text of its dispatch. -/
theorem rpc_agreement_create :
    ∃ trace state, Run RpcStep (.initial {}) trace state ∧ Meets PublishesQuietly trace ∧
      Meets ComparesNear trace ∧ state.returns.length = 1 ∧
      ∀ returned ∈ state.returns, ∃ record ∈ state.dispatches,
        record.loaded = returned.published ∧
        record.request = requestFrame returned.out.call.type returned.out.call.sessionId
          returned.out.requestId returned.out.call.payload ∧
        returned.response.sessionId = record.result.sessionId ∧
        returned.response.status = record.result.status ∧
        returned.response.payload = record.result.payload := by
  have initial : Run RpcStep (.initial {}) [] (.initial {}) := .start
  have published := ((((initial.step (.begin createCall rfl)).step (.writeHeader rfl)).step
    (.writePayload rfl)).step (.storeBytes rfl)).step (.storeSequence rfl)
  have woken := ((((published.step (.signal rfl)).step (.workerWake rfl (by decide))).step
    (.workerLoadSequence rfl)).step (.workerLoadBytes rfl)).step (.workerReadHeader rfl)
  have answered := (((((woken.step (.workerDispatch rfl (by decide)
    (Interaction.runs_respond noMemory _))).step (.workerWritePayload rfl)).step
    (.workerWriteHeader rfl)).step (.workerStoreBytes rfl)).step (.workerStoreSequence rfl)).step
    (.workerSignal rfl)
  have headerParsed := ((((answered.step (.wake rfl (by decide))).step (.loadSequence rfl)).step
    (.loadBytes rfl))).step (@RpcStep.parseHeader _ _ _ _ _ _
    ⟨0x8003, 0, 1, -8, 32, []⟩ rfl rfl (by decide +kernel) (by decide +kernel))
  obtain ⟨trace, state, run, quiet, near, one⟩ : ∃ trace state,
      Run RpcStep (.initial {}) trace state ∧ Meets PublishesQuietly trace ∧
      Meets ComparesNear trace ∧ state.returns.length = 1 := by
    have run := headerParsed.step (.copyPayload rfl)
    refine ⟨_, _, run, ?_, meets_comparesNear_of_published run (by decide), rfl⟩
    simp [Meets, PublishesQuietly, RpcState.initial]
  exact ⟨trace, state, run, quiet, near, one, rpc_agreement run quiet near⟩

/-- The client gives up on a hello that the worker has woken up for, and publishes a create request
before the worker loads the sequence number.  The worker answers the create request, and answers it
again when its own wake-up arrives; the text of the second answer replaces the first half of the text
of the first after the client has read the first header.  The client returns a text that no dispatch
produced. -/
theorem rpc_torn_response :
    ¬ ∀ workerState trace state, Run RpcStep (.initial workerState) trace state →
      Meets ComparesNear trace →
      ∀ returned ∈ state.returns, ∃ record ∈ state.dispatches,
        record.loaded = returned.published ∧
        record.request = requestFrame returned.out.call.type returned.out.call.sessionId
          returned.out.requestId returned.out.call.payload ∧
        returned.response.sessionId = record.result.sessionId ∧
        returned.response.status = record.result.status ∧
        returned.response.payload = record.result.payload := by
  intro agree
  have initial : Run RpcStep (.initial {}) [] (.initial {}) := .start
  have firstPublished := ((((initial.step (.begin helloCall rfl)).step (.writeHeader rfl)).step
    (.writePayload rfl)).step (.storeBytes rfl)).step (.storeSequence rfl)
  have givenUp := ((firstPublished.step (.signal rfl)).step (.workerWake rfl (by decide))).step
    (.timeout rfl)
  have secondPublished := ((((givenUp.step (.begin createCall rfl)).step (.writeHeader rfl)).step
    (.writePayload rfl)).step (.storeBytes rfl)).step (.storeSequence rfl)
  have secondRead := ((secondPublished.step (.workerLoadSequence rfl)).step
    (.workerLoadBytes rfl)).step (.workerReadHeader rfl)
  have answered := (((((secondRead.step (.workerDispatch rfl (by decide)
    (Interaction.runs_respond noReader _))).step (.workerWritePayload rfl)).step
    (.workerWriteHeader rfl)).step (.workerStoreBytes rfl)).step (.workerStoreSequence rfl)).step
    (.workerSignal rfl)
  have headerLoaded := (((answered.step (.signal rfl)).step (.wake rfl (by decide))).step
    (.loadSequence rfl)).step (.loadBytes rfl)
  have headerParsed := headerLoaded.step (@RpcStep.parseHeader _ _ _ _ _ _
    ⟨0x8003, 0, 2, -6, 61, []⟩ rfl rfl (by decide +kernel) (by decide +kernel))
  have wokenAgain := (((headerParsed.step (.workerWake rfl (by decide))).step
    (.workerLoadSequence rfl)).step (.workerLoadBytes rfl)).step (.workerReadHeader rfl)
  have overwritten := (wokenAgain.step (.workerDispatch rfl (by decide)
    (Interaction.runs_respond noMemory _))).step (.workerWritePayload rfl)
  have returned := overwritten.step (.copyPayload rfl)
  refine absurd (agree _ _ _ returned ?_ _ (List.mem_append_right _ (List.mem_singleton.mpr rfl))) ?_
  · exact meets_comparesNear_of_published returned (by decide)
  · decide +kernel
end DawnShell
