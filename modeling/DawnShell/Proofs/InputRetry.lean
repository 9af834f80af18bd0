/-
Module: DawnShell.Proofs.InputRetry
Layer: Proofs
Purpose: Input requests that are retried.  A session operation, and the request that carries it, which
  ends with AGAIN has handed nothing to the codec and changes nothing of the session but what it counts
  of the attempt and what the pump of a transcoder has done.  The retry loops of the client therefore
  have their packet or their EOS accepted exactly once when they return 0.
Trusted boundary: none
Main exports: CodecSession.tried, Tried, Served, input_retry
-/
import DawnShell.Proofs.SessionConsumption
import DawnShell.Proofs.Framing
import DawnShell.Proofs.WorkerTable
import DawnShell.Proofs.PipeEffects

namespace DawnShell

open Wire Interaction

/-! ### Attempts -/

/-- The session after an attempt to queue input that found no free buffer. -/
def CodecSession.tried (session : CodecSession) (latency : LatencyCounters) (frames : UInt64)
    (log : Platform.Log) : CodecSession :=
  { session.pumped frames log with
    inputAgain := session.inputAgain + 1
    inputLatency := latency }

section Attempts

variable {session : CodecSession} {data : Bytes} {presentationTimeUs : UInt64} {flags : UInt32}

/-- A pump ends with OK or with a failure, never with the call to come again. -/
theorem PumpStatus.ne_again {status : Int32} (pump : PumpStatus status) : status ≠ codecAgain := by
  rcases pump with rfl | rfl <;> decide

/-- The pump in front of an operation does not answer that the client should come again, so that such an
answer is the operation's own. -/
theorem pumping_ne_again {log : Platform.Log} {pumped : Outcome}
    (pumping : (pumpIfTranscoder session).Runs log pumped) : pumped.status ≠ codecAgain :=
  (pumping.of_all (pumpIfTranscoder_run session)).pumpStatus.ne_again

/-- A record that ends with AGAIN has handed nothing over, and the session has only pumped. -/
theorem queueInternal_again (session : CodecSession) (data : Bytes) (presentationTimeUs : UInt64)
    (flags : UInt32) :
    (queueInternal session data presentationTimeUs flags).All fun log outcome =>
      outcome.status = codecAgain →
        handedInputs log = [] ∧ ∃ frames, outcome.session = session.pumped frames log := by
  apply (queueInternal_run session data presentationTimeUs flags).mono
  intro log outcome run ended
  cases run with
  | closed _ => exact absurd ended (show codecErrorSession ≠ codecAgain by decide)
  | invalid _ => exact absurd ended (show codecErrorProtocol ≠ codecAgain by decide)
  | stuck _ pumping _ => exact absurd ended (pumping_ne_again pumping)
  | again _ pumping index =>
      have pump := pumping.of_all (pumpIfTranscoder_run session)
      obtain ⟨frames, same⟩ := pump.changed
      refine ⟨by simp [pump.handed, handedInput], frames, ?_⟩
      simp [same, CodecSession.pumped, signalsEosAt]
  | bounced => exact absurd ended (show codecErrorLimit ≠ codecAgain by decide)
  | refused => exact absurd ended (show codecErrorCodec ≠ codecAgain by decide)
  | accepted _ _ _ _ _ _ _ pumpingOn _ status =>
      exact absurd (status.symm.trans ended) (pumping_ne_again pumpingOn)

/-- What an attempt that ended with AGAIN leaves: nothing was handed to the codec, and of the session
only the count and the latency of the attempt and what its pump did are new. -/
def Tried (session : CodecSession) (log : Platform.Log) (after : CodecSession) : Prop :=
  handedInputs log = [] ∧ ∃ latency frames, after = session.tried latency frames log

/-- Counting the attempt on a session that has only pumped. -/
theorem tried_of_pumped (middle : CodecSession) {frames : UInt64} {log framed : Platform.Log}
    (latency : LatencyCounters) (same : middle = session.pumped frames log)
    (quiet : signalsEos framed = signalsEos log) :
    { middle with inputAgain := middle.inputAgain + 1, inputLatency := latency } =
      session.tried latency frames framed := by
  subst same
  simp [CodecSession.tried, CodecSession.pumped, quiet]

/-- A `QUEUE` that answers AGAIN has handed its data to nobody, and the session takes them later as if
nothing had happened. -/
theorem dscwCodecQueue_again (session : CodecSession) (data : Bytes) (presentationTimeUs : UInt64)
    (flags : UInt32) :
    (dscwCodecQueue session data presentationTimeUs flags).All fun log outcome =>
      outcome.status = codecAgain → Tried session log outcome.session := by
  rw [dscwCodecQueue, all_bind, all_call]
  intro started
  rw [all_bind]
  refine (queueInternal_again session data presentationTimeUs flags).mono fun log result only => ?_
  rw [all_bind]
  intro now
  split
  next again =>
    intro _
    obtain ⟨nothing, frames, same⟩ := only again
    exact ⟨by simp [nothing, handedInput], _, frames,
      tried_of_pumped result.session _ same (by simp [signalsEosAt])⟩
  next other => exact fun again => absurd again other

/-- An EOS that answers AGAIN has been handed to nobody, whether the codec was busy or another EOS is on
its way. -/
theorem dscwCodecQueueEos_again (session : CodecSession) (presentationTimeUs : UInt64) :
    (dscwCodecQueueEos session presentationTimeUs).All fun log outcome =>
      outcome.status = codecAgain → Tried session log outcome.session := by
  apply (dscwCodecQueueEos_run session presentationTimeUs).mono
  intro log outcome run ended
  cases run with
  | closed => exact absurd ended (show codecErrorSession ≠ codecAgain by decide)
  | stuck _ _ pumping _ => exact absurd ended (pumping_ne_again pumping)
  | @again _ pumped _ _ _ pumping index latency =>
      have pump := pumping.of_all (pumpIfTranscoder_run session)
      obtain ⟨frames, same⟩ := pump.changed
      exact ⟨by simp [pump.handed, handedInput], latency, frames,
        tried_of_pumped pumped.session latency same (by simp [signalsEosAt])⟩
  | refused => exact absurd ended (show codecErrorCodec ≠ codecAgain by decide)
  | accepted _ _ _ _ _ _ pumpingOn => exact absurd ended (pumping_ne_again pumpingOn)

end Attempts

/-! ### Requests -/

/-- The codec operation that `dispatch_session` calls for an input or an end-of-stream request. -/
def queueOperation (type : MessageType) (session : CodecSession) (payload : Bytes) :
    Platform Outcome :=
  if type = .eos then dscwCodecQueueEos session (getU64 payload 0)
  else dscwCodecQueue session (payload.drop 16) (getU64 payload 0) (getU32 payload 8)

/-- A request that has called its codec operation: the operation and what became of the worker. -/
structure Operated (state : WorkerState) (type : MessageType) (sessionId : UInt64) (payload : Bytes)
    (log : Platform.Log) (status : Int32) (after : WorkerState) (index : Fin dscbMaxSessions)
    (live : LiveSession) (outcome : Outcome) : Prop where
  named : namedSession state sessionId = some (index, live)
  run : (queueOperation type live.codec payload).Runs log outcome
  status : outcome.status = status
  sessions : after.sessions =
    (state.setSlot index (some { live with codec := outcome.session })).sessions

section Requests

variable {state : WorkerState} {type : MessageType} {sessionId : UInt64} {requestId : UInt32}
  {payload : Bytes} {capacity : Nat} {log : Platform.Log}

/-- The statuses that only a codec operation gives to an input request. -/
def OfOperation (status : Int32) : Prop := status = codecOk ∨ status = codecAgain

/-- The answers of an operation that went well are not negative. -/
theorem OfOperation.not_negative {status : Int32} (ours : OfOperation status) :
    ¬status < codecOk := by
  rcases ours with rfl | rfl <;> decide

/-- A negative status is none of the answers of an operation that went well. -/
theorem not_ofOperation {status : Int32} (negative : status < codecOk) : ¬OfOperation status :=
  fun ours => ours.not_negative negative

/-- A reply has the status of its operation, and the slot of the session its new state. -/
theorem finishOperation_status {index : Fin dscbMaxSessions} {live : LiveSession}
    {outcome : Outcome} :
    (finishOperation state index live capacity outcome).2.status = outcome.status ∧
      (finishOperation state index live capacity outcome).1 =
        state.setSlot index (some { live with codec := outcome.session }) := by
  rw [finishOperation]
  split
  · exact ⟨rfl, rfl⟩
  · exact ⟨rfl, rfl⟩

/-- An input request is answered OK or AGAIN by its codec operation only; the checks in front of it have
statuses of their own. -/
theorem dispatchLive_operated {index : Fin dscbMaxSessions} {live : LiveSession}
    {answered : WorkerState × DispatchResult} (queued : type = .input ∨ type = .eos)
    (run : (dispatchLive state type.code index live payload capacity).Runs log answered)
    (ours : OfOperation answered.2.status) :
    ∃ outcome, (queueOperation type live.codec payload).Runs log outcome ∧
      outcome.status = answered.2.status ∧
      answered.1 = state.setSlot index (some { live with codec := outcome.session }) := by
  rw [dispatchLive, MessageType.ofCode?_code] at run
  have operated {program : Platform Outcome}
      (run : (program >>= fun outcome =>
        pure (finishOperation state index live capacity outcome)).Runs log answered) :
      ∃ outcome, program.Runs log outcome ∧ outcome.status = answered.2.status ∧
        answered.1 = state.setSlot index (some { live with codec := outcome.session }) := by
    obtain ⟨first, outcome, last, one, two, rfl⟩ := run.of_bind
    obtain ⟨rfl, rfl⟩ := two.of_pure
    rw [List.append_nil]
    exact ⟨outcome, one, finishOperation_status.1.symm, finishOperation_status.2⟩
  have refused {status : Int32} {message : String} (negative : status < codecOk)
      (run : (pure (state, failure status live.id capacity message) :
        Platform (WorkerState × DispatchResult)).Runs log answered) : False := by
    obtain ⟨-, rfl⟩ := run.of_pure
    exact not_ofOperation negative ours
  rcases queued with rfl | rfl
  · dsimp only at run
    split at run
    · exact absurd run (refused (by decide))
    split at run
    · exact absurd run (refused (by decide))
    · exact operated run
  · dsimp only at run
    split at run
    · exact absurd run (refused (by decide))
    · exact operated run

/-- A well-formed input or EOS frame for a live session that gets an answer of the operation was given
to the codec with its own payload. -/
theorem dispatchRequest_operated {responseType : UInt16} {responseId : UInt32}
    {dispatched : Dispatched} (queued : type = .input ∨ type = .eos)
    (run : (dispatchRequest state (requestFrame type.code sessionId requestId payload) capacity
      responseType responseId).Runs log dispatched)
    (ours : OfOperation dispatched.result.status) :
    ∃ index live outcome, Operated state type sessionId payload log dispatched.result.status
      dispatched.state index live outcome := by
  rw [dispatchRequest] at run
  dsimp only at run
  rw [Framing.decodeRequestHeader_requestFrame] at run
  split at run
  · obtain ⟨-, rfl⟩ := run.of_pure
    exact absurd ours (not_ofOperation (show codecErrorProtocol < codecOk by decide))
  split at run
  · obtain ⟨-, rfl⟩ := run.of_pure
    exact absurd ours (not_ofOperation (show codecErrorProtocol < codecOk by decide))
  obtain ⟨first, answered, last, one, two, rfl⟩ := run.of_bind
  obtain ⟨rfl, rfl⟩ := two.of_pure
  rw [show dscwProtocolHeaderBytes.toNat = 32 from rfl, Framing.drop_requestFrame] at one
  have session : (dispatchSession { state with requests := state.requests + 1 } type.code sessionId
      payload capacity).Runs first answered := by
    rw [dispatchFramed, MessageType.ofCode?_code] at one
    rcases queued with rfl | rfl <;> exact one
  rw [dispatchSession] at session
  split at session
  · obtain ⟨-, rfl⟩ := session.of_pure
    exact absurd ours (not_ofOperation (show codecErrorSession < codecOk by decide))
  next index live named =>
    obtain ⟨outcome, operation, status, after⟩ := dispatchLive_operated queued session ours
    refine ⟨index, live, outcome, named, ?_, status, ?_⟩
    · rw [List.append_nil]
      exact operation
    · rw [countResult_sessions, after]
      rfl

end Requests

/-! ### The retry loops of the client -/

/-- A worker that serves the requests of a client: each request that came back with an answer was
dispatched once, and the answer is the result of that dispatch.  The logs are those of the dispatches.
There is no rule for a request that failed. -/
inductive Served (capacity : Nat) :
    WorkerState → PipeLog → List Platform.Log → WorkerState → Prop where
  | done (state : WorkerState) : Served capacity state [] [] state
  | request {state after : WorkerState} {type : MessageType} {sessionId : UInt64} {payload : Bytes}
      {answer : RpcAnswer} {requestId responseId : UInt32} {responseType : UInt16}
      {work : Platform.Log} {dispatched : Dispatched} {log : PipeLog} {works : List Platform.Log}
      (run : (dispatchRequest state (requestFrame type.code sessionId requestId payload) capacity
        responseType responseId).Runs work dispatched)
      (status : answer.status = dispatched.result.status)
      (text : answer.payload = dispatched.result.payload)
      (rest : Served capacity dispatched.state log works after) :
      Served capacity state (⟨.rpc type sessionId payload, some answer⟩ :: log) (work :: works) after
  | silent {state after : WorkerState} {exchange : Exchange PipeCall PipeCall.Answer}
      {log : PipeLog} {works : List Platform.Log}
      (other : ∀ type sessionId payload, exchange.call ≠ .rpc type sessionId payload)
      (rest : Served capacity state log works after) :
      Served capacity state (exchange :: log) works after

section Serving

variable {capacity fuel : Nat} {state after : WorkerState} {first second log : PipeLog}
  {works : List Platform.Log} {type : MessageType} {sessionId : UInt64} {payload : Bytes}
  {operation : String}

/-- What the worker did for two logs of a client in sequence is what it did for the first and then for
the second. -/
theorem Served.of_append (served : Served capacity state (first ++ second) works after) :
    ∃ early middle late, Served capacity state first early middle ∧
      Served capacity middle second late after ∧ works = early ++ late := by
  induction first generalizing state works with
  | nil => exact ⟨[], state, works, .done state, served, rfl⟩
  | cons exchange first ih =>
      cases served with
      | request run status text rest =>
          obtain ⟨early, middle, late, one, two, rfl⟩ := ih rest
          exact ⟨_ :: early, middle, late, .request run status text one, two, rfl⟩
      | silent other rest =>
          obtain ⟨early, middle, late, one, two, rfl⟩ := ih rest
          exact ⟨early, middle, late, .silent other one, two, rfl⟩

/-- The log makes no request. -/
def NoRequest (log : PipeLog) : Prop :=
  ∀ exchange ∈ log, ∀ type sessionId payload, exchange.call ≠ .rpc type sessionId payload

/-- Without a request the worker does nothing. -/
theorem Served.of_noRequest (quiet : NoRequest log) (served : Served capacity state log works after) :
    works = [] := by
  induction served with
  | done => rfl
  | request => exact absurd rfl (quiet _ (.head _) _ _ _)
  | silent other rest ih => exact ih fun exchange member => quiet exchange (.tail _ member)

/-- Looking at an answer, with a report or without, makes no request. -/
theorem noRequest_okOrReport {response : RpcAnswer} :
    (okOrReport operation response).All fun log _ => NoRequest log := by
  rw [okOrReport]
  split
  · intro _ impossible
    cases impossible
  · intro printed exchange member
    rw [List.mem_singleton.mp member]
    intro _ _ _ same
    cases same

/-- A successful `rpc` is one request with its answer. -/
theorem rpc_log {answer : RpcAnswer} (run : (rpc type sessionId payload).Runs log (some answer)) :
    log = [⟨.rpc type sessionId payload, some answer⟩] := by
  rw [rpc] at run
  split at run
  · cases run.of_pure.2
  · exact run.of_call

/-- One answered request among the requests of a client. -/
theorem Served.of_rpc {answer : RpcAnswer} (queued : type = .input ∨ type = .eos)
    (ours : OfOperation answer.status)
    (served : Served capacity state [⟨.rpc type sessionId payload, some answer⟩] works after) :
    ∃ work index live outcome,
      Operated state type sessionId payload work answer.status after index live outcome ∧
        works = [work] := by
  cases served with
  | request run status text rest =>
      cases rest
      rw [status] at ours ⊢
      obtain ⟨index, live, outcome, operated⟩ := dispatchRequest_operated queued run ours
      exact ⟨_, index, live, outcome, operated, rfl⟩
  | silent other rest => exact absurd rfl (other _ _ _)

/-- Input and EOS alike leave the session as it was when the answer is AGAIN. -/
theorem queueOperation_again {session : CodecSession} {work : Platform.Log} {outcome : Outcome}
    (run : (queueOperation type session payload).Runs work outcome)
    (again : outcome.status = codecAgain) : Tried session work outcome.session := by
  rw [queueOperation] at run
  split at run
  · exact run.of_all (dscwCodecQueueEos_again session _) again
  · exact run.of_all (dscwCodecQueue_again session _ _ _) again

/-- The retry loop that returns 0 has handed over what its last attempt handed over. -/
theorem retryRequest_hands (queued : type = .input ∨ type = .eos)
    (run : (retryRequest fuel type sessionId payload operation).Runs log 0)
    (served : Served capacity state log works after) :
    ∃ (live : LiveSession) (work : Platform.Log) (outcome : Outcome), live.id = sessionId ∧
      (queueOperation type live.codec payload).Runs work outcome ∧ outcome.status = codecOk ∧
      works.flatMap handedInputs = handedInputs work := by
  refine run.loop_invariant
    (fun log _ => ∀ state works after, Served capacity state log works after →
      works.flatMap handedInputs = [])
    (fun log result => result = 0 → ∀ state works after, Served capacity state log works after →
      ∃ (live : LiveSession) (work : Platform.Log) (outcome : Outcome), live.id = sessionId ∧
        (queueOperation type live.codec payload).Runs work outcome ∧ outcome.status = codecOk ∧
        works.flatMap handedInputs = handedInputs work)
    not_runs_exhausted ?_ ?_ ?_ rfl state works after served
  · intro state works after served
    cases served
    rfl
  · -- A round that goes on was answered with AGAIN.
    intro before _ nothing log _ round state works after served
    obtain ⟨early, middle, late, one, two, rfl⟩ := served.of_append
    obtain ⟨asked, answer, rest, asking, decided, rfl⟩ := round.of_bind
    rw [List.flatMap_append, nothing _ _ _ one, List.nil_append]
    cases answer with
    | none => exact nomatch decided.of_pure.2
    | some answer =>
        dsimp only at decided
        split at decided
        next again =>
          obtain ⟨slept, _, last, sleeping, done, rfl⟩ := decided.of_bind
          obtain ⟨rfl, _⟩ := done.of_pure
          have sleep := sleeping.of_call
          subst sleep
          rw [rpc_log asking] at two
          obtain ⟨requests, served, quiet, request, rest, rfl⟩ := two.of_append
          obtain ⟨work, index, live, outcome, operated, rfl⟩ := request.of_rpc queued (.inr again)
          have silent : quiet = [] := rest.of_noRequest fun exchange member => by
            rw [List.mem_singleton.mp member]
            exact fun _ _ _ same => nomatch same
          have tried := queueOperation_again operated.run (operated.status.trans again)
          rw [silent, List.append_nil, List.flatMap_singleton]
          exact tried.1
        next =>
          obtain ⟨_, _, _, _, done, _⟩ := decided.of_bind
          exact nomatch done.of_pure.2
  · intro before _ nothing log result round zero state works after served
    obtain ⟨early, middle, late, one, two, rfl⟩ := served.of_append
    obtain ⟨asked, answer, rest, asking, decided, rfl⟩ := round.of_bind
    rw [List.flatMap_append, nothing _ _ _ one, List.nil_append]
    cases answer with
    | none =>
        cases decided.of_pure.2
        contradiction
    | some answer =>
        dsimp only at decided
        split at decided
        next =>
          obtain ⟨_, _, _, _, done, _⟩ := decided.of_bind
          exact nomatch done.of_pure.2
        next =>
          obtain ⟨printed, _, last, printing, done, rfl⟩ := decided.of_bind
          obtain ⟨rfl, same⟩ := done.of_pure
          cases same
          have ok := (okOrReport_spec printing).2 zero
          rw [rpc_log asking] at two
          obtain ⟨requests, served, quiet, request, rest, rfl⟩ := two.of_append
          obtain ⟨work, index, live, outcome, operated, rfl⟩ := request.of_rpc queued (.inl ok)
          have silent : quiet = [] := by
            rw [List.append_nil] at rest
            exact rest.of_noRequest (printing.of_all noRequest_okOrReport)
          refine ⟨live, work, outcome, (namedSession_some operated.named).2, operated.run,
            operated.status.trans ok, ?_⟩
          rw [silent, List.append_nil, List.flatMap_singleton]

/-- `queue_input` that returns 0 allocates its payload and then retries the request. -/
theorem queueInput_retries {supported : Bool} {header data : Bytes}
    (run : (queueInput fuel supported sessionId header data).Runs log 0) :
    ∃ front rest, (retryRequest fuel .input sessionId (header ++ data) "input").Runs rest 0 ∧
      NoRequest front ∧ log = front ++ rest := by
  rw [queueInput] at run
  split at run
  · obtain ⟨_, _, _, _, done, _⟩ := run.of_bind
    cases done.of_pure.2
  split at run
  · cases run.of_pure.2
  obtain ⟨asked, block, rest, asking, retried, rfl⟩ := run.of_bind
  cases block with
  | none => cases retried.of_pure.2
  | some block =>
      refine ⟨asked, rest, retried, ?_, rfl⟩
      rw [asking.of_call]
      intro exchange member
      rw [List.mem_singleton.mp member]
      intro _ _ _ same
      cases same

end Serving

/-! ### Exactly once -/

/-- A number inside the first part of some bytes is read there. -/
theorem getU32_append {first second : Bytes} {offset : Nat} (inside : offset + 4 ≤ first.length) :
    getU32 (first ++ second) offset = getU32 first offset := by
  rw [getU32, getU32, List.drop_append_of_le_length (by omega), List.take_append_of_le_length]
  rw [List.length_drop]
  omega

/-- A long number inside the first part of some bytes is read there. -/
theorem getU64_append {first second : Bytes} {offset : Nat} (inside : offset + 8 ≤ first.length) :
    getU64 (first ++ second) offset = getU64 first offset := by
  rw [getU64, getU64, getU32_append (by omega), getU32_append (by omega)]

/-- A long number that was written is read back. -/
theorem getU64_putU64 (value : UInt64) : getU64 (putU64 (List.replicate 8 0) 0 value) 0 = value := by
  have written : putU64 (List.replicate 8 0) 0 value = BigEndian.encode 8 value.toNat := by
    rw [← Framing.putU64_bytes]
    simp [putU64, putU32, overwrite]
  apply UInt64.toNat_inj.mp
  rw [Framing.getU64_toNat (by rw [written, BigEndian.length_encode]), written, List.drop_zero,
    List.take_of_length_le (by rw [BigEndian.length_encode]), BigEndian.decode_encode]
  exact Nat.mod_eq_of_lt value.toNat_lt

/-- Input requests are safe to retry.  A request that is answered with AGAIN has handed nothing to the
codec and changes only the attempt's own counters and what the pump has done; the retry loops that
return 0 have had the packet, or the end-of-stream marker, accepted exactly once. -/
theorem input_retry (capacity fuel : Nat) (supported : Bool) (sessionId pts : UInt64)
    (header data : Bytes) (whole : header.length = 16) :
    (∀ (type : MessageType) (state : WorkerState) (requestId responseId : UInt32)
        (responseType : UInt16) (payload : Bytes) (work : Platform.Log) (dispatched : Dispatched),
      type = .input ∨ type = .eos →
      (dispatchRequest state (requestFrame type.code sessionId requestId payload) capacity
        responseType responseId).Runs work dispatched →
      dispatched.result.status = codecAgain →
      ∃ index live codec, namedSession state sessionId = some (index, live) ∧
        Tried live.codec work codec ∧ dispatched.state.sessions =
          (state.setSlot index (some { live with codec })).sessions) ∧
    (∀ (log : PipeLog) (state after : WorkerState) (works : List Platform.Log),
      (queueInput fuel supported sessionId header data).Runs log 0 →
      Served capacity state log works after →
      works.flatMap handedInputs =
        [⟨data, getU64 header 0, getU32 header 8 &&& bufferFlagCodecConfig, amediaOk⟩]) ∧
    (∀ (log : PipeLog) (state after : WorkerState) (works : List Platform.Log),
      (queueEos fuel sessionId pts).Runs log 0 →
      Served capacity state log works after →
      works.flatMap handedInputs = [⟨[], pts, bufferFlagEndOfStream, amediaOk⟩]) := by
  refine ⟨?_, ?_, ?_⟩
  · intro type state requestId responseId responseType payload work dispatched queued run again
    obtain ⟨index, live, outcome, operated⟩ := dispatchRequest_operated queued run (.inr again)
    refine ⟨index, live, outcome.session, operated.named, ?_, operated.sessions⟩
    exact queueOperation_again operated.run (operated.status.trans again)
  · intro log state after works run served
    obtain ⟨front, rest, retried, quiet, rfl⟩ := queueInput_retries run
    obtain ⟨early, middle, late, one, two, rfl⟩ := served.of_append
    rw [one.of_noRequest quiet, List.nil_append]
    obtain ⟨live, work, outcome, -, operation, ok, handed⟩ :=
      retryRequest_hands (.inl rfl) retried two
    rw [handed]
    have payload : (header ++ data).drop 16 = data := List.drop_left' whole
    rw [queueOperation, if_neg (by decide), payload, getU64_append (by omega),
      getU32_append (by omega)] at operation
    rcases (operation.of_all (dscwCodecQueue_effect live.codec _ _ _)).consumes with
      ⟨-, notOk⟩ | ⟨-, -, accepted, -⟩
    · exact absurd ok notOk
    · exact accepted
  · intro log state after works run served
    obtain ⟨live, work, outcome, -, operation, ok, handed⟩ :=
      retryRequest_hands (.inr rfl) run served
    rw [handed]
    rw [queueOperation, if_pos rfl, getU64_putU64] at operation
    rcases (operation.of_all (dscwCodecQueueEos_effect live.codec _)).consumes with
      ⟨-, notOk⟩ | ⟨-, accepted, -⟩
    · exact absurd ok notOk
    · exact accepted

/-- A worker with one transcoder, whose session id is 1. -/
def transcoderWorker : WorkerState where
  sessions index := if index = 0 then some ⟨1, by decide, surfaceTranscoder⟩ else none
  nextSessionId := 1

/-- The header of an input record of one byte with timestamp 5. -/
def oneByteHeader : Bytes := [0, 0, 0, 0, 0, 0, 0, 5, 0, 0, 0, 0, 0, 0, 0, 1]

/-- The decoder has no output and no free input buffer. -/
def noInputBuffer : Platform.Log :=
  [ ⟨.monotonicNs, (0 : UInt64)⟩,
    ⟨.dequeueOutputBuffer (some 1) 0, ((-1 : Int), (⟨0, 0, 0, 0⟩ : BufferInfo))⟩,
    ⟨.dequeueInputBuffer (some 1) 100000, (-1 : Int)⟩,
    ⟨.monotonicNs, (0 : UInt64)⟩ ]

/-- The decoder takes the packet. -/
def takesPacket : Platform.Log :=
  [ ⟨.monotonicNs, (0 : UInt64)⟩,
    ⟨.dequeueOutputBuffer (some 1) 0, ((-1 : Int), (⟨0, 0, 0, 0⟩ : BufferInfo))⟩,
    ⟨.dequeueInputBuffer (some 1) 100000, (0 : Int)⟩,
    ⟨.getInputBuffer (some 1) 0, (some 65536 : Option Nat)⟩,
    ⟨.queueInputBuffer (some 1) 0 [1] 5 0, amediaOk⟩,
    ⟨.dequeueOutputBuffer (some 1) 0, ((-1 : Int), (⟨0, 0, 0, 0⟩ : BufferInfo))⟩,
    ⟨.monotonicNs, (0 : UInt64)⟩ ]

/-- The client sends a packet twice: the first request is answered with AGAIN, the second with OK. -/
def sentTwice : PipeLog :=
  [ ⟨.malloc 17, some fun _ => 0⟩,
    ⟨.rpc .input 1 (oneByteHeader ++ [1]), some ⟨codecAgain, [], by simp⟩⟩,
    ⟨.usleep 2000, ()⟩,
    ⟨.rpc .input 1 (oneByteHeader ++ [1]), some ⟨codecOk, [], by simp⟩⟩ ]

/-- Along this log the client sends one record, is told to come again and sends it once more. -/
theorem runs_sentTwice : (queueInput 2 true 1 oneByteHeader [1]).Runs sentTwice 0 :=
  runs_of_replay rfl

/-- The worker finds no input buffer for the first of the two frames, and hands the second one to the
codec. -/
theorem dispatched_twice_for_packet : ∃ first second,
    (dispatchRequest transcoderWorker
      (requestFrame MessageType.input.code 1 1 (oneByteHeader ++ [1])) 8388608 0 0).replay
      noInputBuffer = some first ∧
    codecAgain = first.result.status ∧ [] = first.result.payload ∧
    (dispatchRequest first.state
      (requestFrame MessageType.input.code 1 2 (oneByteHeader ++ [1])) 8388608 0 0).replay
      takesPacket = some second ∧
    codecOk = second.result.status ∧ [] = second.result.payload :=
  ⟨_, _, rfl, rfl, rfl, rfl, rfl, rfl⟩

/-- The worker serves the two requests of that log one after another. -/
theorem served_sentTwice : ∃ after,
    Served 8388608 transcoderWorker sentTwice [noInputBuffer, takesPacket] after := by
  obtain ⟨first, second, one, again, silence, two, ok, quiet⟩ := dispatched_twice_for_packet
  refine ⟨second.state, .silent (fun _ _ _ same => nomatch same) ?_⟩
  refine .request (runs_of_replay one) again silence ?_
  refine .silent (fun _ _ _ same => nomatch same) ?_
  exact .request (runs_of_replay two) ok quiet (.done _)

theorem input_retry_sent_twice :
    oneByteHeader.length = 16 ∧
    (queueInput 2 true 1 oneByteHeader [1]).Runs sentTwice 0 ∧
    [noInputBuffer, takesPacket].flatMap handedInputs =
      [⟨[1], getU64 oneByteHeader 0, getU32 oneByteHeader 8 &&& bufferFlagCodecConfig,
        amediaOk⟩] := by
  obtain ⟨after, served⟩ := served_sentTwice
  refine ⟨rfl, runs_sentTwice, ?_⟩
  exact (input_retry 8388608 2 true 1 0 oneByteHeader [1] rfl).2.1 sentTwice transcoderWorker after
    _ runs_sentTwice served

/-- The decoder delivers its last buffer, and has no input buffer free. -/
def endsAndStalls : Platform.Log :=
  [ ⟨.monotonicNs, (0 : UInt64)⟩,
    ⟨.dequeueOutputBuffer (some 1) 0, ((0 : Int), (⟨0, 0, 0, 4⟩ : BufferInfo))⟩,
    ⟨.releaseOutputBuffer (some 1) 0 false, amediaOk⟩,
    ⟨.optionalSymbol .signalInputEos, true⟩,
    ⟨.signalEndOfInputStream (some 2), amediaOk⟩,
    ⟨.dequeueInputBuffer (some 1) 100000, (-1 : Int)⟩,
    ⟨.monotonicNs, (0 : UInt64)⟩ ]

theorem again_behind_encoder_eos : ∃ dispatched,
    (dispatchRequest transcoderWorker
      (requestFrame MessageType.input.code 1 1 (oneByteHeader ++ [1])) 8388608 0 0).replay
      endsAndStalls = some dispatched ∧ dispatched.result.status = codecAgain ∧
    ∃ codec, dispatched.state.sessions 0 = some ⟨1, by decide, codec⟩ ∧
      codec.encoderEosSignaled = true :=
  ⟨_, rfl, rfl, _, rfl, rfl⟩

/-- A request that is answered with AGAIN can have passed the end of the decoder's stream on to the
encoder. -/
theorem again_signals_encoder_eos :
    ¬∀ (type : MessageType) (state : WorkerState) (sessionId : UInt64)
      (requestId responseId : UInt32) (responseType : UInt16) (payload : Bytes) (capacity : Nat)
      (work : Platform.Log) (dispatched : Dispatched), type = .input ∨ type = .eos →
      (dispatchRequest state (requestFrame type.code sessionId requestId payload) capacity
        responseType responseId).Runs work dispatched →
      dispatched.result.status = codecAgain →
      ∀ index live codec, state.sessions index = some live →
        dispatched.state.sessions index = some { live with codec } →
        codec.inputEos = live.codec.inputEos ∧
          codec.encoderEosSignaled = live.codec.encoderEosSignaled := by
  intro unchanged
  obtain ⟨dispatched, run, again, codec, session, signaled⟩ := again_behind_encoder_eos
  have same := (unchanged .input transcoderWorker 1 1 0 0 _ 8388608 _ dispatched (.inl rfl)
    (runs_of_replay run) again 0 ⟨1, by decide, surfaceTranscoder⟩ codec rfl session).2
  rw [signaled] at same
  exact nomatch same

end DawnShell
