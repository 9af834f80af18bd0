/-
Module: DawnShell.Proofs.UnknownTypes
Layer: Proofs
Purpose: Requests of a type that is none of the fourteen: what the two nested dispatchers answer, and
  that the answer is the promised one exactly for a session that is live.
Trusted boundary: none
Main exports: mem_liveIds_iff, dispatchRequest_unknown, unknown_type_unsupported_iff
-/
import DawnShell.Proofs.WorkerTable

namespace DawnShell

open Wire Interaction

section Unknown

variable {state : WorkerState} {type : UInt16} {sessionId : UInt64} {payload request : Bytes}
  {capacity : Nat} {responseType : UInt16} {responseId : UInt32}

/-- The live ids are those `dispatch_session` finds a session for; zero is never one of them. -/
theorem mem_liveIds_iff : sessionId ∈ state.liveIds ↔ (namedSession state sessionId).isSome := by
  constructor
  · intro live
    obtain ⟨index, inside, named⟩ := List.mem_filterMap.mp live
    obtain ⟨entry, slot, rfl⟩ := Option.map_eq_some_iff.mp named
    have held : state.slotId index = entry.id := by rw [WorkerState.slotId, slot]; rfl
    have searched : (findSession state entry.id).isSome :=
      List.find?_isSome.mpr ⟨index, inside, beq_iff_eq.mpr held⟩
    obtain ⟨found, search⟩ := Option.isSome_iff_exists.mp searched
    have same := List.find?_some search
    rw [beq_iff_eq] at same
    rw [namedSession, if_neg entry.nonzero, search]
    cases occupied : state.sessions found with
    | none =>
        rw [WorkerState.slotId, occupied] at same
        exact absurd same.symm entry.nonzero
    | some other => simp [occupied]
  · intro named
    obtain ⟨⟨index, entry⟩, found⟩ := Option.isSome_iff_exists.mp named
    obtain ⟨slot, rfl⟩ := namedSession_some found
    exact List.mem_filterMap.mpr ⟨index, List.mem_finRange index, by rw [slot]; rfl⟩

/-- The reply to a request of an unknown type: the session is looked up before the type is judged. -/
def unknownReply (state : WorkerState) (sessionId : UInt64) (capacity : Nat) : DispatchResult :=
  match namedSession state sessionId with
  | none => failure codecErrorSession sessionId capacity "unknown codec session"
  | some (_, live) =>
      failure codecErrorUnsupported live.id capacity "unsupported session operation"

/-- A frame of an unknown type is answered without a call to the platform. -/
theorem dispatchFramed_unknown (unknown : MessageType.ofCode? type = none) :
    dispatchFramed state type sessionId payload capacity =
      pure (state, unknownReply state sessionId capacity) := by
  rw [dispatchFramed, unknown, dispatchSession, unknownReply]
  cases namedSession state sessionId with
  | none => rfl
  | some entry => simp only [dispatchLive, unknown]

/-- A request of an unknown type calls nothing, and changes nothing but the two counters. -/
theorem dispatchRequest_unknown (framed : framingAccepts request = true)
    (unknown : MessageType.ofCode? (requestType request) = none) :
    dispatchRequest state request capacity responseType responseId =
      let counted := { state with requests := state.requests + 1 }
      let reply := unknownReply counted (requestSession request) capacity
      pure ⟨counted.countResult reply.status, reply, requestType request,
        (decodeRequestHeader request).requestId⟩ := by
  rw [framingAccepts, Bool.and_eq_true, Bool.not_eq_true', Bool.not_eq_true',
    decide_eq_false_iff_not] at framed
  rw [dispatchRequest, if_neg framed.1]
  dsimp only
  rw [if_neg (Bool.not_eq_true _ ▸ framed.2), ← requestType, ← requestSession,
    dispatchFramed_unknown unknown]
  rfl

/-- An unknown type is reported as unsupported exactly if the frame names a live session. -/
theorem unknownReply_status_iff :
    (unknownReply state sessionId capacity).status = codecErrorUnsupported ↔
      sessionId ∈ state.liveIds := by
  rw [mem_liveIds_iff, unknownReply]
  cases namedSession state sessionId with
  | none =>
      have differ : codecErrorSession ≠ codecErrorUnsupported := by decide
      simpa [failure] using differ
  | some entry => simp [failure]

end Unknown

/-- A well-framed request of a type that is none of the fourteen is answered `UNSUPPORTED`, with the
session table as it was, exactly when it names a live session. -/
theorem unknown_type_unsupported_iff {state : WorkerState} {request : Bytes} {capacity : Nat}
    {responseType : UInt16} {responseId : UInt32} {log : Platform.Log} {dispatched : Dispatched}
    (framed : framingAccepts request = true)
    (unknown : MessageType.ofCode? (requestType request) = none)
    (run : (dispatchRequest state request capacity responseType responseId).Runs log dispatched) :
    (dispatched.result.status = codecErrorUnsupported ∧
      dispatched.state.sessions = state.sessions) ↔
      requestSession request ∈ state.liveIds := by
  rw [dispatchRequest_unknown framed unknown] at run
  obtain ⟨-, rfl⟩ := run.of_pure
  have kept := countResult_sessions { state with requests := state.requests + 1 }
    (unknownReply { state with requests := state.requests + 1 } (requestSession request)
      capacity).status
  rw [and_iff_left kept]
  exact unknownReply_status_iff

/-- The request of the client's own negative test, on a session of choice. -/
def unknownRequest (sessionId : UInt64) : Bytes := requestFrame 0x1234 sessionId 1 []

theorem firstId_ne_zero : (1 : UInt64) ≠ 0 := by decide

/-- A worker with one live session. -/
def workerWithSession : WorkerState where
  sessions := fun index => if index = 0 then some ⟨1, firstId_ne_zero, {}⟩ else none
  nextSessionId := 1

/-- On the live session the answer is `UNSUPPORTED`, and the table of sessions is as it was. -/
theorem unknown_type_unsupported_live :
    let dispatched := ((dispatchRequest workerWithSession (unknownRequest 1) 64 0 0).respond
      Platform.allSucceed).2
    dispatched.result.status = codecErrorUnsupported ∧
      dispatched.state.sessions = workerWithSession.sessions :=
  (unknown_type_unsupported_iff (by decide +kernel) (by decide +kernel)
    (runs_respond Platform.allSucceed _)).mpr (by decide +kernel)

/-- The client's negative test, as it stands, is answered with a session error: it names no session,
which is looked at first. -/
theorem unknown_type_session_error :
    framingAccepts (unknownRequest 0) = true ∧
      MessageType.ofCode? (requestType (unknownRequest 0)) = none ∧
      ∃ log dispatched, (dispatchRequest {} (unknownRequest 0) 64 0 0).Runs log dispatched ∧
        dispatched.result.status = codecErrorSession ∧
        dispatched.result.status ≠ codecErrorUnsupported := by
  refine ⟨by decide +kernel, by decide +kernel, _, _,
    runs_respond Platform.allSucceed (dispatchRequest {} (unknownRequest 0) 64 0 0), ?_⟩
  decide +kernel

end DawnShell
