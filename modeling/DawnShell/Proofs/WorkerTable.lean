/-
Module: DawnShell.Proofs.WorkerTable
Layer: Proofs
Purpose: The session table of the codec worker over whole runs.  One effect lemma says how a request
  can change the table; on runs it gives the bookkeeping law: ids are nonzero and never reused, the
  live ids are those created and not closed, the counters count, and no request touches a session it
  does not name.  The number of sessions can be read back from the text of a `HEALTH` reply.
Trusted boundary: none
Main exports: TableEffect, dispatchFramed_effect, WorkerRun, TableInvariant,
  activeSessions_of_healthText, worker_session_table
-/
import DawnShell.Codec.Worker
import DawnShell.Lib.WrapCounter
import Mathlib.Data.List.Nodup
import Mathlib.Data.Fintype.Basic
import Mathlib.Tactic.FinCases

namespace DawnShell

open Wire Interaction

/-! ### Failed creation -/

/-- Every failure a program reports has a negative status. -/
def FailsNegative {α : Type} (program : Platform (Except Failure α)) : Prop :=
  program.All fun _ result => ∀ failure, result = .error failure → failure.status < codecOk

section Create

variable {α : Type}

/-- A creation that succeeds reports no failure, so there is none that could be counted wrongly. -/
theorem failsNegative_ok (value : α) : FailsNegative (pure (.ok value)) :=
  fun _ equal => nomatch equal

/-- A creation that fails at once with a negative status is counted as an error by its reply. -/
theorem failsNegative_error {failure : Failure} (negative : failure.status < codecOk) :
    FailsNegative (pure (.error failure) : Platform (Except Failure α)) := by
  intro other equal
  cases equal
  exact negative

/-- Whatever comes before cannot make a program fail with another status. -/
theorem failsNegative_bind {β : Type} {first : Platform β} {rest : β → Platform (Except Failure α)}
    (holds : ∀ value, FailsNegative (rest value)) : FailsNegative (first >>= rest) :=
  all_bind_of_forall _ holds

theorem codecErrorCodec_negative : codecErrorCodec < codecOk := by decide

/-- The encoder loop fails only with a codec error once every candidate has been refused. -/
theorem tryEncoders_failsNegative (parameters : EncoderParameters)
    (candidates : List CodecCandidate) : FailsNegative (tryEncoders parameters candidates) := by
  induction candidates with
  | nil => exact failsNegative_error codecErrorCodec_negative
  | cons candidate candidates ih =>
      rw [tryEncoders]
      refine failsNegative_bind fun attempt => ?_
      cases attempt with
      | next => exact ih
      | failed error => exact failsNegative_error codecErrorCodec_negative
      | built encoder => exact failsNegative_ok encoder

/-- The decoder loop fails only with a codec error once every candidate has been refused. -/
theorem tryDecoders_failsNegative (mime : String) (width height frameRate : UInt32)
    (candidates : List CodecCandidate) :
    FailsNegative (tryDecoders mime width height frameRate candidates) := by
  induction candidates with
  | nil => exact failsNegative_error codecErrorCodec_negative
  | cons candidate candidates ih =>
      rw [tryDecoders]
      refine failsNegative_bind fun attempt => ?_
      cases attempt with
      | next => exact ih
      | failed error => exact failsNegative_error codecErrorCodec_negative
      | built decoder => exact failsNegative_ok decoder

/-- A failure that is passed on keeps its status. -/
theorem failsNegative_bind_except {β : Type} {first : Platform (Except Failure β)}
    {rest : Except Failure β → Platform (Except Failure α)} (holds : FailsNegative first)
    (onError : ∀ failure, failure.status < codecOk → FailsNegative (rest (.error failure)))
    (onOk : ∀ value, FailsNegative (rest (.ok value))) : FailsNegative (first >>= rest) := by
  rw [FailsNegative, all_bind]
  refine holds.mono fun log result negative => ?_
  cases result with
  | error failure => exact onError failure (negative failure rfl)
  | ok value => exact onOk value

/-- Whatever the platform answers, a failing `create_encoder` has a negative status. -/
theorem createEncoder_failsNegative (codec : UInt32) (parameters : EncoderParameters)
    (session : CodecSession) : FailsNegative (createEncoder codec parameters session) := by
  rw [createEncoder]
  refine failsNegative_bind fun candidates => ?_
  exact failsNegative_bind_except (tryEncoders_failsNegative parameters candidates)
    (fun failure negative => failsNegative_error negative) (fun encoder => failsNegative_ok _)

/-- Whatever the platform answers, a failing `create_decoder` has a negative status. -/
theorem createDecoder_failsNegative (codec : UInt32) (mime : String)
    (width height frameRate : UInt32) (session : CodecSession) :
    FailsNegative (createDecoder codec mime width height frameRate session) := by
  rw [createDecoder]
  refine failsNegative_bind fun candidates => ?_
  exact failsNegative_bind_except (tryDecoders_failsNegative mime width height frameRate candidates)
    (fun failure negative => failsNegative_error negative) (fun decoder => failsNegative_ok _)

/-- Every failing path of `dscw_codec_create`, from its parameter checks to its description, has a
negative status. -/
theorem dscwCodecCreate_failsNegative
    (mode codec width height frameRate bitrate requestedColorFormat : UInt32)
    (descriptionSize : Nat) :
    FailsNegative (dscwCodecCreate mode codec width height frameRate bitrate requestedColorFormat
      descriptionSize) := by
  rw [dscwCodecCreate]
  split
  · exact failsNegative_error (by decide)
  split
  · exact failsNegative_error (by decide)
  split
  · exact failsNegative_error (by decide)
  refine failsNegative_bind fun allocated => ?_
  split
  · exact failsNegative_error (by decide)
  refine failsNegative_bind fun startedNs => failsNegative_bind_except ?_ ?_ ?_
  · rw [createByMode]
    split
    · exact createEncoder_failsNegative codec _ _
    · exact createDecoder_failsNegative codec _ width height frameRate _
  · intro failure negative
    exact failsNegative_bind fun _ => failsNegative_error negative
  · intro session
    dsimp only
    split
    · exact failsNegative_bind fun _ => failsNegative_error (by decide)
    · exact failsNegative_ok _

/-- Every failing path of `dscw_codec_create_transcoder` has a negative status, those behind a found
pair included. -/
theorem dscwCodecCreateTranscoder_failsNegative
    (inputCodec outputCodec width height frameRate bitrate : UInt32) (descriptionSize : Nat) :
    FailsNegative (dscwCodecCreateTranscoder inputCodec outputCodec width height frameRate bitrate
      descriptionSize) := by
  rw [dscwCodecCreateTranscoder]
  split
  · split
    · exact failsNegative_error (by decide)
    refine failsNegative_bind fun createInputSurface => failsNegative_bind fun signalInputEos => ?_
    split
    · exact failsNegative_error (by decide)
    rw [createTranscoderChecked]
    refine failsNegative_bind fun encoders => failsNegative_bind fun decoders =>
      failsNegative_bind fun allocated => ?_
    split
    · exact failsNegative_error (by decide)
    refine failsNegative_bind fun startedNs => failsNegative_bind fun found => ?_
    split
    · exact failsNegative_bind fun _ => failsNegative_error codecErrorCodec_negative
    · dsimp only
      split
      · exact failsNegative_ok _
      · exact failsNegative_bind fun _ => failsNegative_error (by decide)
  · exact failsNegative_error (by decide)

end Create

/-! ### What a request does to the table -/

/-- The message types that add or remove a session. -/
def changesTable (type : UInt16) : Bool :=
  type == MessageType.create.code || type == MessageType.createTranscoder.code
    || type == MessageType.close.code

/-- How a request of a type on a session can change the table, with the reply that goes with it. -/
inductive TableEffect (before : WorkerState) (type : UInt16) (sessionId : UInt64)
    (result : DispatchResult) : WorkerState → Prop where
  | kept (silent : result.status = codecOk → changesTable type = false) :
      TableEffect before type sessionId result before
  | operated (index : Fin dscbMaxSessions) (live : LiveSession) (codec : CodecSession)
      (found : before.sessions index = some live) (named : live.id = sessionId)
      (operation : changesTable type = false) :
      TableEffect before type sessionId result
        (before.setSlot index (some { live with codec := codec }))
  | created (index : Fin dscbMaxSessions) (codec : CodecSession)
      (free : before.sessions index = none)
      (creating : type = MessageType.create.code ∨ type = MessageType.createTranscoder.code)
      (ok : result.status = codecOk)
      (reply : result.sessionId = advanceSessionId before.nextSessionId) :
      TableEffect before type sessionId result
        { before.setSlot index (some ⟨advanceSessionId before.nextSessionId,
            advanceSessionId_ne_zero before.nextSessionId, codec⟩) with
          nextSessionId := advanceSessionId before.nextSessionId }
  | closed (index : Fin dscbMaxSessions) (live : LiveSession)
      (found : before.sessions index = some live) (named : live.id = sessionId)
      (closing : type = MessageType.close.code) (ok : result.status = codecOk)
      (reply : result.sessionId = sessionId) :
      TableEffect before type sessionId result (before.setSlot index none)

/-- A program changes the table only in one of these ways. -/
structure HasEffect (state : WorkerState) (type : UInt16) (sessionId : UInt64)
    (program : Platform (WorkerState × DispatchResult)) : Prop where
  all : program.All fun _ outcome => TableEffect state type sessionId outcome.2 outcome.1

section Effects

variable {state : WorkerState} {type : UInt16} {sessionId : UInt64} {capacity : Nat}

/-- Platform calls in front of a reply are no part of its effect on the table. -/
theorem hasEffect_bind {α : Type} {first : Platform α}
    {rest : α → Platform (WorkerState × DispatchResult)}
    (holds : ∀ value, HasEffect state type sessionId (rest value)) :
    HasEffect state type sessionId (first >>= rest) :=
  ⟨all_bind_of_forall (fun outcome : WorkerState × DispatchResult =>
    TableEffect state type sessionId outcome.2 outcome.1) fun value => (holds value).all⟩

theorem hasEffect_failure {status : Int32} (replyId : UInt64) (message : String)
    (failed : status ≠ codecOk) :
    HasEffect state type sessionId (pure (state, failure status replyId capacity message)) :=
  ⟨.kept fun ok => absurd ok failed⟩

/-- A check that replies with a failure can precede a program. -/
theorem hasEffect_guard {invalid : Prop} [Decidable invalid] {status : Int32} {message : String}
    {program : Platform (WorkerState × DispatchResult)} (replyId : UInt64)
    (failed : status ≠ codecOk) (holds : HasEffect state type sessionId program) :
    HasEffect state type sessionId
      (if invalid then pure (state, failure status replyId capacity message) else program) := by
  split
  · exact hasEffect_failure replyId message failed
  · exact holds

/-- A reply to a request that is about no session leaves the table alone. -/
theorem hasEffect_reply {result : DispatchResult} (other : changesTable type = false) :
    HasEffect state type sessionId (pure (state, result)) :=
  ⟨.kept fun _ => other⟩

/-- A type code that is known is the code of the message it stands for. -/
theorem code_of_ofCode? {message : MessageType} (known : MessageType.ofCode? type = some message) :
    type = message.code := by
  have found := List.find?_some known
  exact (beq_iff_eq.mp found).symm

/-- The slot that a creation reserves is free, so no live session is overwritten. -/
theorem reserveSession_free {index : Fin dscbMaxSessions}
    (reserved : reserveSession state = some index) : state.sessions index = none := by
  have zero := List.find?_some reserved
  rw [beq_iff_eq, WorkerState.slotId] at zero
  cases slot : state.sessions index with
  | none => rfl
  | some live =>
      rw [slot] at zero
      exact absurd zero live.nonzero

/-- Both create messages either put one session with a new id into a free slot or leave the table alone
with a negative status. -/
theorem dispatchCreateWith_effect {create : Platform (Except Failure Created)}
    {expectedLength : Nat} {lengthMessage : String} {payload : Bytes}
    (fails : FailsNegative create)
    (creating : type = MessageType.create.code ∨ type = MessageType.createTranscoder.code) :
    HasEffect state type sessionId
      (dispatchCreateWith create expectedLength lengthMessage state payload capacity) := by
  rw [dispatchCreateWith]
  split
  · exact hasEffect_failure 0 lengthMessage (by decide)
  split
  · exact hasEffect_failure 0 _ (by decide)
  next slot reserved =>
    refine ⟨all_bind.mpr (fails.mono fun log result negative => ?_)⟩
    cases result with
    | error error =>
        have failed : error.status ≠ codecOk := fun ok => by
          have below := negative error rfl
          rw [ok] at below
          exact absurd below (by decide)
        exact (hasEffect_failure 0 _ failed).all
    | ok created => exact .created slot _ (reserveSession_free reserved) creating rfl rfl

/-- The session that is found under an id is live in its slot and bears that id. -/
theorem namedSession_some {index : Fin dscbMaxSessions} {live : LiveSession}
    (named : namedSession state sessionId = some (index, live)) :
    state.sessions index = some live ∧ live.id = sessionId := by
  rw [namedSession] at named
  split at named
  · cases named
  obtain ⟨found, search, rest⟩ := Option.bind_eq_some_iff.mp named
  obtain ⟨other, slot, pair⟩ := Option.map_eq_some_iff.mp rest
  cases pair
  have same := List.find?_some search
  rw [beq_iff_eq, WorkerState.slotId, slot] at same
  exact ⟨slot, same⟩

/-- An operation on a live session changes only the codec state in its own slot. -/
theorem finishOperation_effect {index : Fin dscbMaxSessions} {live : LiveSession}
    {outcome : Outcome} (found : state.sessions index = some live) (named : live.id = sessionId)
    (operation : changesTable type = false) :
    HasEffect state type sessionId (pure (finishOperation state index live capacity outcome)) := by
  rw [finishOperation]
  split
  · exact ⟨.operated index live outcome.session found named operation⟩
  · exact ⟨.operated index live outcome.session found named operation⟩

/-- A codec operation on the named session changes that session's object and nothing else. -/
theorem operation_effect {index : Fin dscbMaxSessions} {live : LiveSession}
    {program : Platform Outcome} (found : state.sessions index = some live)
    (named : live.id = sessionId) (operation : changesTable type = false) :
    HasEffect state type sessionId (do
      let outcome ← program
      pure (finishOperation state index live capacity outcome)) :=
  hasEffect_bind fun _ => finishOperation_effect found named operation

/-- Closing destroys the codec and empties the slot, and does nothing else to the table. -/
theorem closeSession_eq {index : Fin dscbMaxSessions} {live : LiveSession}
    (found : state.sessions index = some live) :
    (closeSession state index).All fun _ after => after = state.setSlot index none := by
  rw [closeSession, found]
  exact all_bind_of_forall (fun after => after = state.setSlot index none) fun _ => rfl

/-- A message for a live session closes it or works on it, and no message touches another session. -/
theorem dispatchLive_effect {index : Fin dscbMaxSessions} {live : LiveSession} (payload : Bytes)
    (found : state.sessions index = some live) (named : live.id = sessionId) :
    HasEffect state type sessionId (dispatchLive state type index live payload capacity) := by
  have operation {message : MessageType} (known : MessageType.ofCode? type = some message)
      (other : changesTable message.code = false) : changesTable type = false := by
    rwa [code_of_ofCode? known]
  rw [dispatchLive]
  split
  next known =>
    exact hasEffect_guard live.id (by decide) (hasEffect_guard live.id (by decide)
      (operation_effect found named (operation known rfl)))
  next known =>
    refine hasEffect_guard live.id (by decide) (hasEffect_bind fun outcome => ?_)
    split
    · exact ⟨.operated index live outcome.session found named (operation known rfl)⟩
    · exact finishOperation_effect found named (operation known rfl)
  next known =>
    exact hasEffect_guard live.id (by decide) (operation_effect found named (operation known rfl))
  next known =>
    exact hasEffect_guard live.id (by decide) (operation_effect found named (operation known rfl))
  next known =>
    exact hasEffect_guard live.id (by decide) (operation_effect found named (operation known rfl))
  next known =>
    refine hasEffect_guard live.id (by decide) (hasEffect_bind fun text => ?_)
    split
    · exact hasEffect_failure live.id _ (by decide)
    · exact hasEffect_reply (operation known rfl)
  next known =>
    refine hasEffect_guard live.id (by decide) ?_
    refine ⟨all_bind.mpr ((closeSession_eq found).mono fun log after cleared => ?_)⟩
    rw [cleared]
    exact .closed index live found named (code_of_ofCode? known) rfl named
  next => exact hasEffect_failure live.id _ (by decide)

/-- A message that names no live session is refused with a negative status and changes nothing. -/
theorem dispatchSession_effect (payload : Bytes) :
    HasEffect state type sessionId (dispatchSession state type sessionId payload capacity) := by
  rw [dispatchSession]
  split
  next => exact hasEffect_failure sessionId _ (by decide)
  next index live named =>
    obtain ⟨found, same⟩ := namedSession_some named
    exact dispatchLive_effect payload found same

/-- Every frame that passes the framing checks has one of the effects on the table, whatever its type,
id and payload are. -/
theorem dispatchFramed_effect (state : WorkerState) (type : UInt16) (sessionId : UInt64)
    (payload : Bytes) (capacity : Nat) :
    HasEffect state type sessionId (dispatchFramed state type sessionId payload capacity) := by
  have other {message : MessageType} (known : MessageType.ofCode? type = some message)
      (unchanging : changesTable message.code = false) : changesTable type = false := by
    rwa [code_of_ofCode? known]
  rw [dispatchFramed]
  split
  next known => exact hasEffect_reply (other known rfl)
  next known => exact hasEffect_reply (other known rfl)
  next known =>
    refine hasEffect_guard 0 (by decide) ?_
    exact hasEffect_bind fun result => hasEffect_reply (other known rfl)
  next known =>
    refine hasEffect_guard sessionId (by decide) ?_
    rw [dispatchCreate]
    exact dispatchCreateWith_effect (dscwCodecCreate_failsNegative ..) (.inl (code_of_ofCode? known))
  next known =>
    refine hasEffect_guard sessionId (by decide) ?_
    rw [dispatchCreateTranscoder]
    exact dispatchCreateWith_effect (dscwCodecCreateTranscoder_failsNegative ..)
      (.inr (code_of_ofCode? known))
  next => exact hasEffect_failure sessionId _ (by decide)
  next => exact hasEffect_failure sessionId _ (by decide)
  next => exact dispatchSession_effect payload

end Effects

/-! ### The ids in the table -/

section LiveIds

variable {state : WorkerState} {index : Fin dscbMaxSessions} {live : LiveSession}

/-- The table has two slots, and its ids are those of the first followed by those of the second. -/
theorem liveIds_eq (state : WorkerState) :
    state.liveIds = ((state.sessions 0).map LiveSession.id).toList ++
      ((state.sessions 1).map LiveSession.id).toList := by
  simp only [WorkerState.liveIds, show List.finRange dscbMaxSessions = [0, 1] from rfl,
    List.filterMap_cons, List.filterMap_nil]
  cases state.sessions 0 <;> cases state.sessions 1 <;> rfl

/-- A new codec state for a live session leaves the ids of the table as they are. -/
theorem liveIds_setSlot (found : state.sessions index = some live) (codec : CodecSession) :
    (state.setSlot index (some { live with codec := codec })).liveIds = state.liveIds := by
  rw [liveIds_eq, liveIds_eq]
  fin_cases index <;> simp_all [WorkerState.setSlot]

/-- Filling a free slot adds the id of the new session to those that are live. -/
theorem liveIds_setSlot_perm (free : state.sessions index = none) (live : LiveSession) :
    (state.setSlot index (some live)).liveIds.Perm (live.id :: state.liveIds) := by
  rw [liveIds_eq, liveIds_eq]
  fin_cases index
  · simp_all [WorkerState.setSlot]
  · simp_all [WorkerState.setSlot, List.perm_append_singleton]

/-- Emptying a slot takes the id of its session out of those that are live, and only this one. -/
theorem liveIds_perm_setSlot_none (found : state.sessions index = some live) :
    state.liveIds.Perm (live.id :: (state.setSlot index none).liveIds) := by
  rw [liveIds_eq, liveIds_eq]
  fin_cases index
  · simp_all [WorkerState.setSlot]
  · simp_all [WorkerState.setSlot, List.perm_append_singleton]

theorem sessions_setSlot_of_ne {other : Fin dscbMaxSessions} (different : other ≠ index)
    (slot : Option LiveSession) : (state.setSlot index slot).sessions other = state.sessions other :=
  Function.update_of_ne different _ _

/-- There are never more live sessions than slots. -/
theorem length_liveIds_le (state : WorkerState) : state.liveIds.length ≤ dscbMaxSessions := by
  rw [WorkerState.liveIds]
  exact (List.length_filterMap_le _ _).trans (by simp)

/-- No live session has the id 0, which a slot cannot hold. -/
theorem zero_notMem_liveIds (state : WorkerState) : (0 : UInt64) ∉ state.liveIds := by
  intro member
  obtain ⟨index, _, slot⟩ := List.mem_filterMap.mp member
  obtain ⟨live, _, zero⟩ := Option.map_eq_some_iff.mp slot
  exact live.nonzero zero

theorem activeSessions_eq (state : WorkerState) : state.activeSessions = state.liveIds.length := by
  rw [WorkerState.activeSessions, liveIds_eq, show List.finRange dscbMaxSessions = [0, 1] from rfl]
  have slot (index : Fin dscbMaxSessions) :
      (state.slotId index != 0) = (state.sessions index).isSome := by
    rw [WorkerState.slotId]
    cases entry : state.sessions index with
    | none => rfl
    | some live => simpa using live.nonzero
  simp only [List.countP_cons, List.countP_nil, slot]
  cases state.sessions 0 <;> cases state.sessions 1 <;> rfl

end LiveIds

/-! ### Whole requests -/

/-- The type a request names, as `dispatch_request` reads it. -/
def requestType (request : Bytes) : UInt16 := (decodeRequestHeader request).type

/-- The session a request names, as `dispatch_request` reads it. -/
def requestSession (request : Bytes) : UInt64 := (decodeRequestHeader request).sessionId

@[simp] theorem countResult_sessions (state : WorkerState) (status : Int32) :
    (state.countResult status).sessions = state.sessions := by
  unfold WorkerState.countResult
  split <;> rfl

@[simp] theorem countResult_nextSessionId (state : WorkerState) (status : Int32) :
    (state.countResult status).nextSessionId = state.nextSessionId := by
  unfold WorkerState.countResult
  split <;> rfl

@[simp] theorem countResult_requests (state : WorkerState) (status : Int32) :
    (state.countResult status).requests = state.requests := by
  unfold WorkerState.countResult
  split <;> rfl

/-- The error counter grows by one for a negative status and by nothing for any other. -/
theorem countResult_errors (state : WorkerState) (status : Int32) :
    (state.countResult status).errors =
      if status < codecOk then state.errors + 1 else state.errors := by
  unfold WorkerState.countResult
  split <;> rfl

/-- What one `dispatch_request` does to the worker: it counts the request, changes the table, and
counts a negative reply. -/
structure RequestEffect (before : WorkerState) (request : Bytes) (result : DispatchResult)
    (after : WorkerState) : Prop where
  table : ∃ middle, TableEffect { before with requests := before.requests + 1 }
    (requestType request) (requestSession request) result middle ∧
    after = middle.countResult result.status

/-- Whatever the worker receives, well-formed or not, has one of the effects on its table and counts as
one request. -/
theorem dispatchRequest_effect (state : WorkerState) (request : Bytes) (capacity : Nat)
    (responseType : UInt16) (responseId : UInt32) :
    (dispatchRequest state request capacity responseType responseId).All fun _ dispatched =>
      RequestEffect state request dispatched.result dispatched.state := by
  rw [dispatchRequest]
  dsimp only
  split
  · exact ⟨_, .kept fun ok => absurd ok (show codecErrorProtocol ≠ codecOk by decide), rfl⟩
  split
  · refine ⟨_, .kept fun ok => absurd ok ?_, rfl⟩
    show (if _ then dscbErrorVersion else codecErrorProtocol) ≠ codecOk
    split <;> decide
  · refine all_bind.mpr ((dispatchFramed_effect _ _ _ _ _).all.mono fun log outcome effect => ?_)
    exact ⟨_, effect, rfl⟩

/-- A reply that carries a `HEALTH` text of this worker state. -/
structure HealthReply (state : WorkerState) (capacity : Nat) (result : DispatchResult) : Prop where
  text : ∃ pid uptimeMs,
    result.payload = copyText capacity
      (healthText pid uptimeMs state.activeSessions state.requests state.errors) ∧
    (textBytes (healthText pid uptimeMs state.activeSessions state.requests state.errors)).length <
      healthBytes

/-- The digits behind the first occurrence of a key, read as a number. -/
def numberAfter (key : List Char) : List Char → Option Nat
  | [] => none
  | character :: rest =>
      match key.isPrefixOf? (character :: rest) with
      | some behind => some (Nat.ofDigitChars 10 (behind.takeWhile Char.isDigit) 0)
      | none => numberAfter key rest

section Reader

variable {first : Char} {key before rest : List Char}

/-- Where the first character of the key does not occur, nothing is found. -/
theorem numberAfter_append (absent : first ∉ before) :
    numberAfter (first :: key) (before ++ rest) = numberAfter (first :: key) rest := by
  induction before with
  | nil => rfl
  | cons character before ih =>
      obtain ⟨different, absent⟩ := List.ne_and_not_mem_of_not_mem_cons absent
      rw [List.cons_append, numberAfter, List.isPrefixOf?, if_neg (by simpa using different)]
      exact ih absent

/-- There is no quotation mark among decimal digits, so a search for a key does not end inside a number.
-/
theorem quote_notMem_toDigits (number : Nat) : '"' ∉ Nat.toDigits 10 number := by
  intro member
  exact absurd (Nat.isDigit_of_mem_toDigits (by decide) (by decide) member) (by decide)

/-- A number is found behind its key when something else than a digit follows it. -/
theorem numberAfter_key (number : Nat) {next : Char} (ends : next.isDigit = false) :
    numberAfter (first :: key) (first :: key ++ (Nat.toDigits 10 number ++ next :: rest)) =
      some number := by
  have found : (first :: key).isPrefixOf?
      (first :: key ++ (Nat.toDigits 10 number ++ next :: rest)) =
        some (Nat.toDigits 10 number ++ next :: rest) :=
    List.isPrefixOf?_eq_some_iff_append_eq.mpr rfl
  have digits : ∀ character ∈ Nat.toDigits 10 number, character.isDigit = true :=
    fun _ member => Nat.isDigit_of_mem_toDigits (by decide) (by decide) member
  rw [List.cons_append] at found ⊢
  rw [numberAfter, found]
  simp only
  rw [List.takeWhile_append_of_pos digits, List.takeWhile_cons_of_neg (by simp [ends]),
    List.append_nil, Nat.ofDigitChars_ten_toDigits]

end Reader

/-- The `HEALTH` text up to the digits of the pid. -/
def healthFront : List Char :=
  "\x7b".toList ++ ((jsonField "protocol" "1").toList ++ (",".toList ++
    ((jsonField "worker_state" (jsonText "ready")).toList ++ (",".toList ++
      ((jsonField "transport" (jsonText "inherited_memfd_eventfd")).toList ++ (",".toList ++
        (jsonField "pid" "").toList))))))

/-- The text begins with its fixed part and the pid, followed by the uptime and the number of live
sessions under their keys. -/
theorem healthText_eq (pid : Nat) (uptimeMs : UInt64) (activeSessions : Nat)
    (requests errors : UInt64) :
    ∃ rest, (healthText pid uptimeMs activeSessions requests errors).toList =
      healthFront ++ (Nat.toDigits 10 pid ++ (",".toList ++ (jsonField "uptime_ms" "").toList ++
        (Nat.toDigits 10 uptimeMs.toNat ++ (",".toList ++
          ((jsonField "active_sessions" "").toList ++
            (Nat.toDigits 10 activeSessions ++ ',' :: rest)))))) := by
  have comma : ",".toList = [','] := rfl
  have digits (number : Nat) : (toString number).toList = Nat.toDigits 10 number := Nat.toList_repr
  have digits64 (number : UInt64) : (toString number).toList = Nat.toDigits 10 number.toNat :=
    Nat.toList_repr
  refine ⟨(jsonField "requests" (toString requests)).toList ++ (",".toList ++
    ((jsonField "request_errors" (toString errors)).toList ++ (",".toList ++
      ((jsonField "public_listener" "false").toList ++ (",".toList ++
        ((jsonField "software_fallback" "false").toList ++ "\x7d".toList)))))), ?_⟩
  simp only [healthFront, healthText, jsonField, String.toList_append, String.toList_intercalate,
    String.toList_empty, List.map_cons, List.map_nil, List.intercalate_cons_cons,
    List.intercalate_singleton, List.append_assoc, List.cons_append, List.nil_append,
    List.append_nil, comma, digits, digits64]

/-- A reader of a `HEALTH` text finds the number of live sessions under its name. -/
theorem activeSessions_of_healthText (pid : Nat) (uptimeMs : UInt64) (activeSessions : Nat)
    (requests errors : UInt64) :
    numberAfter (jsonField "active_sessions" "").toList
      (healthText pid uptimeMs activeSessions requests errors).toList = some activeSessions := by
  obtain ⟨rest, text⟩ := healthText_eq pid uptimeMs activeSessions requests errors
  have key : (jsonField "active_sessions" "").toList = '"' :: "active_sessions\":".toList := rfl
  -- the names before it begin otherwise
  have front (tail : List Char) :
      numberAfter ('"' :: "active_sessions\":".toList) (healthFront ++ tail) =
        numberAfter ('"' :: "active_sessions\":".toList) tail := rfl
  have uptime (tail : List Char) :
      numberAfter ('"' :: "active_sessions\":".toList)
        (",".toList ++ (jsonField "uptime_ms" "").toList ++ tail) =
          numberAfter ('"' :: "active_sessions\":".toList) tail := rfl
  have comma (tail : List Char) :
      numberAfter ('"' :: "active_sessions\":".toList) (",".toList ++ tail) =
        numberAfter ('"' :: "active_sessions\":".toList) tail := rfl
  rw [text, key, front, numberAfter_append (quote_notMem_toDigits _), uptime,
    numberAfter_append (quote_notMem_toDigits _), comma]
  exact numberAfter_key activeSessions (by decide)

/-- A reply that is positive carries the whole text, which was then short enough for its buffer. -/
theorem healthResult_ok {capacity : Nat} {text : String}
    (ok : (healthResult capacity text).status = codecOk) :
    (healthResult capacity text).payload = copyText capacity text ∧
      (textBytes text).length < healthBytes := by
  unfold healthResult at ok ⊢
  split at ok
  next => exact absurd ok (show codecErrorIo ≠ codecOk by decide)
  next fits =>
    rw [if_neg fits]
    exact ⟨rfl, Nat.lt_of_not_le fits⟩

/-- The platform gives the pid and the time; all else in a `HEALTH` text is read off the state of the
worker. -/
theorem dispatchHealth_reply (state : WorkerState) (capacity : Nat) :
    (dispatchHealth state capacity).All fun _ result =>
      result.status = codecOk → HealthReply state capacity result := by
  rw [dispatchHealth, all_bind, all_call]
  intro pid
  rw [all_bind, all_call]
  intro now
  rw [all_pure]
  intro ok
  exact ⟨pid, _, healthResult_ok ok⟩

/-- A positive reply to `HEALTH` describes the state in which the request itself has already been
counted. -/
theorem dispatchRequest_health (state : WorkerState) (request : Bytes) (capacity : Nat)
    (responseType : UInt16) (responseId : UInt32) :
    (dispatchRequest state request capacity responseType responseId).All fun _ dispatched =>
      requestType request = MessageType.health.code → dispatched.result.status = codecOk →
      HealthReply { state with requests := state.requests + 1 } capacity dispatched.result := by
  rw [dispatchRequest]
  dsimp only
  split
  · intro _ ok
    exact absurd ok (show codecErrorProtocol ≠ codecOk by decide)
  split
  · intro _ ok
    refine absurd ok ?_
    show (if _ then dscbErrorVersion else codecErrorProtocol) ≠ codecOk
    split <;> decide
  · refine all_bind.mpr (all_iff_forall_runs.mpr fun log outcome run => ?_)
    intro health ok
    have known : MessageType.ofCode? (decodeRequestHeader request).type = some .health := by
      rw [show (decodeRequestHeader request).type = MessageType.health.code from health,
        MessageType.ofCode?_code]
    rw [dispatchFramed, known] at run
    dsimp only at run
    split at run
    · cases run
      exact absurd ok (show codecErrorProtocol ≠ codecOk by decide)
    · obtain ⟨_, _, _, health, reply, _⟩ := run.of_bind
      cases reply
      have replied := health.of_all (dispatchHealth_reply _ capacity)
      exact replied ok

/-! ### Runs -/

/-- One request of a run and the result of its dispatch. -/
structure WorkerRecord where
  request : Bytes
  result : DispatchResult

namespace WorkerRecord

/-- The id an OK reply to a create request hands out. -/
def createdId (record : WorkerRecord) : Option UInt64 :=
  if (requestType record.request = MessageType.create.code ∨
      requestType record.request = MessageType.createTranscoder.code) ∧
      record.result.status = codecOk then
    some record.result.sessionId
  else none

/-- The id an OK reply to a close request names. -/
def closedId (record : WorkerRecord) : Option UInt64 :=
  if requestType record.request = MessageType.close.code ∧ record.result.status = codecOk then
    some record.result.sessionId
  else none

/-- The reply carries a negative status. -/
def negative (record : WorkerRecord) : Bool := record.result.status < codecOk

end WorkerRecord

/-- `WorkerRun initial records state`: dispatching the requests of `records` in order, against some
platform, takes the worker from `initial` to `state`. -/
inductive WorkerRun (initial : WorkerState) : List WorkerRecord → WorkerState → Prop where
  | start : WorkerRun initial [] initial
  | dispatch {records : List WorkerRecord} {state : WorkerState} {request : Bytes}
      {responseType : UInt16} {responseId : UInt32} {log : Platform.Log} {dispatched : Dispatched}
      (run : WorkerRun initial records state)
      (step : (dispatchRequest state request dscwMaxPayload.toNat responseType responseId).Runs log
        dispatched) :
      WorkerRun initial (records ++ [⟨request, dispatched.result⟩]) dispatched.state

/-- The ids handed out so far, in order. -/
def createdIds (records : List WorkerRecord) : List UInt64 :=
  records.filterMap WorkerRecord.createdId

/-- The ids closed so far, in order. -/
def closedIds (records : List WorkerRecord) : List UInt64 :=
  records.filterMap WorkerRecord.closedId

/-- The books of the worker: every id ever created is closed or live, the ids are consecutive values
of the wrapping counter, and the two counters count the dispatches and the negative replies. -/
structure TableInvariant (first : UInt64) (records : List WorkerRecord) (state : WorkerState) :
    Prop where
  balance : (createdIds records).Perm (closedIds records ++ state.liveIds)
  handedOut : (createdIds records).map UInt64.toNat =
    (List.range (createdIds records).length).map
      (fun step => (WrapCounter.next (2 ^ 64))^[step + 1] first.toNat)
  next : state.nextSessionId.toNat =
    (WrapCounter.next (2 ^ 64))^[(createdIds records).length] first.toNat
  requests : state.requests = UInt64.ofNat records.length
  errors : state.errors = UInt64.ofNat (records.countP WorkerRecord.negative)

/-- Session ids run through all numbers below `2 ^ 64` but 0 before one comes back. -/
theorem toNat_advanceSessionId (nextSessionId : UInt64) :
    (advanceSessionId nextSessionId).toNat = WrapCounter.next (2 ^ 64) nextSessionId.toNat := by
  have wrapped : nextSessionId + 1 = 0 ↔ (nextSessionId.toNat + 1) % 2 ^ 64 = 0 := by
    rw [← UInt64.toNat_inj, UInt64.toNat_add]
    rfl
  rw [advanceSessionId, WrapCounter.next]
  split
  next zero =>
    rw [if_pos (wrapped.mp zero), UInt64.toNat_add, UInt64.toNat_add]
    simp only [UInt64.toNat_one, Nat.mod_add_mod, Nat.add_assoc]
  next nonzero => rw [if_neg (fun zero => nonzero (wrapped.mpr zero)), UInt64.toNat_add]; rfl

/-- A record that neither creates nor closes leaves the books as they are. -/
theorem ids_of_silent {request : Bytes} {result : DispatchResult}
    (silent : result.status = codecOk → changesTable (requestType request) = false) :
    WorkerRecord.createdId ⟨request, result⟩ = none ∧
      WorkerRecord.closedId ⟨request, result⟩ = none := by
  constructor
  · rw [WorkerRecord.createdId, if_neg]
    rintro ⟨creating, ok⟩
    rcases creating with same | same <;> simp [changesTable, same] at silent <;> exact silent ok
  · rw [WorkerRecord.closedId, if_neg]
    rintro ⟨same, ok⟩
    simp [changesTable, same] at silent
    exact silent ok

theorem createdIds_append (records : List WorkerRecord) (record : WorkerRecord) :
    createdIds (records ++ [record]) = createdIds records ++ record.createdId.toList := by
  rw [createdIds, List.filterMap_append]
  cases created : record.createdId <;> simp [createdIds, created]

theorem closedIds_append (records : List WorkerRecord) (record : WorkerRecord) :
    closedIds (records ++ [record]) = closedIds records ++ record.closedId.toList := by
  rw [closedIds, List.filterMap_append]
  cases closed : record.closedId <;> simp [closedIds, closed]

/-- The ids of the table do not depend on the counters. -/
theorem liveIds_congr {state other : WorkerState} (same : state.sessions = other.sessions) :
    state.liveIds = other.liveIds := by
  rw [WorkerState.liveIds, same, WorkerState.liveIds]

section Invariant

variable {first : UInt64} {records : List WorkerRecord} {state after : WorkerState}
  {request : Bytes} {result : DispatchResult}

/-- The part of the books that is about ids, for one change of the table: the created ids are the closed
and the live ones, and count up from the first. -/
theorem TableInvariant.ids_step (invariant : TableInvariant first records state)
    {before middle : WorkerState}
    (effect : TableEffect before (requestType request) (requestSession request) result middle)
    (sessions : before.sessions = state.sessions)
    (counter : before.nextSessionId = state.nextSessionId) :
    (createdIds (records ++ [⟨request, result⟩])).Perm
        (closedIds (records ++ [⟨request, result⟩]) ++ middle.liveIds) ∧
      (createdIds (records ++ [⟨request, result⟩])).map UInt64.toNat =
        (List.range (createdIds (records ++ [⟨request, result⟩])).length).map
          (fun step => (WrapCounter.next (2 ^ 64))^[step + 1] first.toNat) ∧
      middle.nextSessionId.toNat = (WrapCounter.next (2 ^ 64))^[
        (createdIds (records ++ [⟨request, result⟩])).length] first.toNat := by
  have live : before.liveIds = state.liveIds := liveIds_congr sessions
  rw [createdIds_append, closedIds_append]
  cases effect with
  | kept silent =>
      obtain ⟨created, closed⟩ := ids_of_silent silent
      rw [created, closed, live, counter, Option.toList_none, List.append_nil, List.append_nil]
      exact ⟨invariant.balance, invariant.handedOut, invariant.next⟩
  | operated index entry codec found named operation =>
      obtain ⟨created, closed⟩ := ids_of_silent fun _ => operation
      rw [created, closed, liveIds_setSlot found, live, Option.toList_none, List.append_nil,
        List.append_nil]
      exact ⟨invariant.balance, invariant.handedOut, counter ▸ invariant.next⟩
  | created index codec free creating ok reply =>
      have created : WorkerRecord.createdId ⟨request, result⟩ =
          some (advanceSessionId state.nextSessionId) := by
        rw [WorkerRecord.createdId, if_pos ⟨creating, ok⟩, reply, counter]
      have closed : WorkerRecord.closedId ⟨request, result⟩ = none := by
        rw [WorkerRecord.closedId, if_neg]
        rintro ⟨closing, -⟩
        rcases creating with same | same <;> rw [same] at closing <;> exact absurd closing (by decide)
      have number : (advanceSessionId state.nextSessionId).toNat =
          (WrapCounter.next (2 ^ 64))^[(createdIds records).length + 1] first.toNat := by
        rw [toNat_advanceSessionId, invariant.next, Function.iterate_succ_apply']
      rw [created, closed]
      refine ⟨?_, ?_, ?_⟩
      · rw [Option.toList_some, Option.toList_none, List.append_nil]
        -- The new id moves from the end of the created list to the front of the live one.
        have grown := (liveIds_setSlot_perm free ⟨advanceSessionId before.nextSessionId,
          advanceSessionId_ne_zero before.nextSessionId, codec⟩).symm
        rw [live] at grown
        have moved := (invariant.balance.cons (advanceSessionId state.nextSessionId)).trans
          List.perm_middle.symm
        rw [← counter] at moved ⊢
        exact ((List.perm_append_singleton _ _).trans moved).trans (grown.append_left _)
      · rw [Option.toList_some, List.map_append, invariant.handedOut, List.length_append,
          List.length_singleton, List.range_succ, List.map_append, List.map_singleton,
          List.map_singleton, number]
      · simpa [counter] using number
  | closed index entry found named closing ok reply =>
      have created : WorkerRecord.createdId ⟨request, result⟩ = none := by
        rw [WorkerRecord.createdId, if_neg]
        rintro ⟨same | same, -⟩ <;> rw [closing] at same <;> exact absurd same (by decide)
      have closed : WorkerRecord.closedId ⟨request, result⟩ = some entry.id := by
        rw [WorkerRecord.closedId, if_pos ⟨closing, ok⟩, reply, named]
      have shrunk := liveIds_perm_setSlot_none found
      rw [live] at shrunk
      rw [created, closed, Option.toList_none, Option.toList_some, List.append_nil,
        List.append_assoc]
      refine ⟨invariant.balance.trans (shrunk.append_left _), invariant.handedOut, ?_⟩
      simpa [WorkerState.setSlot, counter] using invariant.next

/-- One more request keeps the table in step with the record of what was created and closed. -/
theorem TableInvariant.step (invariant : TableInvariant first records state)
    (effect : RequestEffect state request result after) :
    TableInvariant first (records ++ [⟨request, result⟩]) after := by
  obtain ⟨middle, table, rfl⟩ := effect
  obtain ⟨balance, handedOut, next⟩ := invariant.ids_step table rfl rfl
  have counters : middle.requests = state.requests + 1 ∧ middle.errors = state.errors := by
    cases table <;> exact ⟨rfl, rfl⟩
  refine ⟨?_, handedOut, ?_, ?_, ?_⟩
  · rwa [liveIds_congr (countResult_sessions middle result.status)]
  · rwa [countResult_nextSessionId]
  · rw [countResult_requests, counters.1, invariant.requests, List.length_append,
      List.length_singleton, UInt64.ofNat_add]
    rfl
  · rw [countResult_errors, counters.2, invariant.errors, List.countP_append, List.countP_singleton]
    by_cases negative : result.status < codecOk
    · rw [if_pos negative, if_pos (by simpa [WorkerRecord.negative] using negative),
        UInt64.ofNat_add]
      rfl
    · rw [if_neg negative, if_neg (by simpa [WorkerRecord.negative] using negative), Nat.add_zero]

end Invariant

/-- After any number of requests the table agrees with the record of the run. -/
theorem WorkerRun.invariant {first started : UInt64} {records : List WorkerRecord}
    {state : WorkerState}
    (run : WorkerRun { nextSessionId := first, startedNs := started } records state) :
    TableInvariant first records state := by
  induction run with
  | start =>
      refine ⟨?_, rfl, rfl, rfl, rfl⟩
      rw [liveIds_eq]
      rfl
  | dispatch run step ih =>
      exact ih.step (step.of_all (dispatchRequest_effect _ _ _ _ _))

/-! ### The law of the table -/

section Law

variable {first : UInt64} {records : List WorkerRecord} {state : WorkerState}

/-- Ids are not repeated before the counter has gone round. -/
theorem TableInvariant.createdIds_nodup (invariant : TableInvariant first records state)
    (bounded : records.length < 2 ^ 64 - 1) : (createdIds records).Nodup := by
  refine List.Nodup.of_map UInt64.toNat ?_
  rw [invariant.handedOut]
  refine List.Nodup.map_on ?_ List.nodup_range
  have few : (createdIds records).length ≤ records.length := List.length_filterMap_le _ _
  -- One direction suffices: the two steps are interchangeable.
  have ordered : ∀ i j, i ≤ j → j < (createdIds records).length →
      (WrapCounter.next (2 ^ 64))^[i + 1] first.toNat =
        (WrapCounter.next (2 ^ 64))^[j + 1] first.toNat → i = j := by
    intro i j before below same
    have equal := WrapCounter.iterate_next_inj (by decide) first.toNat_lt (Nat.succ_pos i)
      (Nat.succ_le_succ before) (by omega) same
    omega
  intro i inside j below same
  rcases Nat.le_total i j with before | after
  · exact ordered i j before (List.mem_range.mp below) same
  · exact (ordered j i after (List.mem_range.mp inside) same.symm).symm

/-- The live ids are those created and not closed. -/
theorem TableInvariant.mem_liveIds (invariant : TableInvariant first records state)
    (nodup : (createdIds records).Nodup) (id : UInt64) :
    id ∈ state.liveIds ↔ id ∈ createdIds records ∧ id ∉ closedIds records := by
  have split := invariant.balance.nodup_iff.mp nodup
  have disjoint := List.disjoint_of_nodup_append split
  rw [invariant.balance.mem_iff, List.mem_append]
  constructor
  · intro live
    exact ⟨.inr live, fun closed => disjoint closed live⟩
  · rintro ⟨closed | live, open'⟩
    · exact absurd closed open'
    · exact live

/-- The sessions that are live are those created less those closed. -/
theorem TableInvariant.activeSessions_eq (invariant : TableInvariant first records state) :
    state.activeSessions = (createdIds records).length - (closedIds records).length := by
  rw [DawnShell.activeSessions_eq, invariant.balance.length_eq, List.length_append]
  omega

end Law

/-- A reply with a negative status leaves the set of live ids as it was. -/
theorem RequestEffect.liveIds_of_negative {before after : WorkerState} {request : Bytes}
    {result : DispatchResult} (effect : RequestEffect before request result after)
    (negative : result.status < codecOk) : after.liveIds = before.liveIds := by
  obtain ⟨middle, table, rfl⟩ := effect
  rw [liveIds_congr (countResult_sessions middle result.status)]
  have failed : result.status ≠ codecOk := fun ok => by
    rw [ok] at negative
    exact absurd negative (by decide)
  cases table with
  | kept => rfl
  | operated index live codec found => exact liveIds_setSlot found codec
  | created index codec free creating ok => exact absurd ok failed
  | closed index live found named closing ok => exact absurd ok failed

/-- A session the request does not name keeps its slot and its codec object. -/
theorem RequestEffect.other_session {before after : WorkerState} {request : Bytes}
    {result : DispatchResult} (effect : RequestEffect before request result after)
    {index : Fin dscbMaxSessions} {other : LiveSession}
    (live : before.sessions index = some other) (unnamed : other.id ≠ requestSession request) :
    after.sessions index = some other := by
  obtain ⟨middle, table, rfl⟩ := effect
  rw [countResult_sessions]
  cases table with
  | kept => exact live
  | operated slot entry codec found named =>
      refine (sessions_setSlot_of_ne ?_ _).trans live
      rintro rfl
      exact unnamed (by rw [← named, Option.some.inj (live.symm.trans found)])
  | created slot codec free =>
      refine (sessions_setSlot_of_ne ?_ _).trans live
      rintro rfl
      exact absurd (live.symm.trans free) (by simp)
  | closed slot entry found named =>
      refine (sessions_setSlot_of_ne ?_ _).trans live
      rintro rfl
      exact unnamed (by rw [← named, Option.some.inj (live.symm.trans found)])

/-- The session table of the worker, for any first id, over every run of fewer than `2 ^ 64 - 1`
requests of any bytes and every platform, after each dispatch: at most two live ids, nonzero and
distinct, none handed out twice; the live ids are those created and not closed; the counters count;
and the next dispatch reports the difference in `HEALTH`, keeps the live ids when its status is
negative, and keeps the codec object of every live session it does not name. -/
theorem worker_session_table {first started : UInt64} {records : List WorkerRecord}
    {state : WorkerState}
    (run : WorkerRun { nextSessionId := first, startedNs := started } records state)
    (bounded : records.length < 2 ^ 64 - 1) :
    (state.liveIds.length ≤ 2 ∧ 0 ∉ state.liveIds ∧ state.liveIds.Nodup ∧
      (createdIds records).Nodup) ∧
    (∀ id, id ∈ state.liveIds ↔ id ∈ createdIds records ∧ id ∉ closedIds records) ∧
    (state.requests.toNat = records.length ∧
      state.errors.toNat = records.countP WorkerRecord.negative) ∧
    ∀ request responseType responseId log dispatched,
      (dispatchRequest state request dscwMaxPayload.toNat responseType responseId).Runs log
        dispatched →
      (requestType request = MessageType.health.code → dispatched.result.status = codecOk →
        ∃ pid uptimeMs, dispatched.result.payload = textBytes (healthText pid uptimeMs
          ((createdIds records).length - (closedIds records).length) (state.requests + 1)
          state.errors)) ∧
      (dispatched.result.status < codecOk → dispatched.state.liveIds = state.liveIds) ∧
      (∀ index other, state.sessions index = some other → other.id ≠ requestSession request →
        dispatched.state.sessions index = some other) := by
  have invariant := run.invariant
  have nodup := invariant.createdIds_nodup bounded
  refine ⟨⟨length_liveIds_le state, zero_notMem_liveIds state, ?_, nodup⟩, ?_, ⟨?_, ?_⟩, ?_⟩
  · exact (List.nodup_append.mp (invariant.balance.nodup_iff.mp nodup)).2.1
  · exact invariant.mem_liveIds nodup
  · exact (congrArg UInt64.toNat invariant.requests).trans (Nat.mod_eq_of_lt (by omega))
  · have few : records.countP WorkerRecord.negative ≤ records.length := List.countP_le_length
    exact (congrArg UInt64.toNat invariant.errors).trans (Nat.mod_eq_of_lt (by omega))
  · intro request responseType responseId log dispatched step
    have effect := step.of_all (dispatchRequest_effect _ _ _ _ _)
    refine ⟨fun health ok => ?_, effect.liveIds_of_negative, fun _ _ => effect.other_session⟩
    have reply := step.of_all (dispatchRequest_health _ _ _ _ _)
    obtain ⟨pid, uptimeMs, payload, short⟩ := (reply health ok).text
    refine ⟨pid, uptimeMs, ?_⟩
    rw [payload, copyText, List.take_of_length_le]
    · rw [← invariant.activeSessions_eq]
      rfl
    · have long : healthBytes ≤ dscwMaxPayload.toNat := by decide
      exact Nat.le_of_lt (Nat.lt_of_lt_of_le short long)

/-- The requests are served one after another, in an environment that does not change. -/
def serveAll (environment : (call : Platform.Call) → Platform.Answer call) :
    List Bytes → List WorkerRecord × WorkerState → List WorkerRecord × WorkerState
  | [], served => served
  | request :: requests, (records, state) =>
      let dispatched :=
        ((dispatchRequest state request dscwMaxPayload.toNat 0 0).respond environment).2
      serveAll environment requests (records ++ [⟨request, dispatched.result⟩], dispatched.state)

theorem workerRun_serveAll {initial : WorkerState}
    (environment : (call : Platform.Call) → Platform.Answer call) (requests : List Bytes)
    {served : List WorkerRecord × WorkerState} (run : WorkerRun initial served.1 served.2) :
    WorkerRun initial (serveAll environment requests served).1
      (serveAll environment requests served).2 := by
  induction requests generalizing served with
  | nil => exact run
  | cons request requests ih => exact ih (.dispatch run (runs_respond environment _))

/-- A `CREATE` for an H.264 decoder. -/
def decoderRequest (requestId : UInt32) : Bytes :=
  requestFrame MessageType.create.code 0 requestId
    (BigEndian.encodeFields [(4, 1), (4, 1), (4, 64), (4, 64), (4, 30), (4, 1000000), (4, 0)])

/-- Three sessions are asked for, of which the third finds no slot; the first is closed twice. -/
def crowdedRequests : List Bytes :=
  [ decoderRequest 1, decoderRequest 2, decoderRequest 3,
    requestFrame MessageType.close.code 1 4 [], requestFrame MessageType.close.code 1 5 [] ]

/-- A `HEALTH` request behind them reports one session, six requests and two errors. The third of the
creations was refused for want of room. -/
theorem worker_session_table_crowded :
    let served := serveAll Platform.allSucceed crowdedRequests ([], {})
    let health := ((dispatchRequest served.2 (requestFrame MessageType.health.code 0 6 [])
      dscwMaxPayload.toNat 0 0).respond Platform.allSucceed).2
    (served.1.map (·.result.status) = [codecOk, codecOk, codecErrorLimit, codecOk, codecErrorSession] ∧
      served.2.liveIds = [2]) ∧
    (∀ id, id ∈ served.2.liveIds ↔ id ∈ createdIds served.1 ∧ id ∉ closedIds served.1) ∧
    ∃ pid uptimeMs, health.result.payload = textBytes (healthText pid uptimeMs 1 6 2) := by
  intro served health
  have values : served.1.map (·.result.status) = [codecOk, codecOk, codecErrorLimit, codecOk, codecErrorSession] ∧
      served.2.liveIds = [2] ∧ createdIds served.1 = [1, 2] ∧ closedIds served.1 = [1] ∧
      served.2.requests = 5 ∧ served.2.errors = 2 ∧ health.result.status = codecOk ∧
      served.1.length = 5 := by
    decide +kernel
  obtain ⟨statuses, live, created, closed, requests, errors, ok, count⟩ := values
  have run : WorkerRun {} served.1 served.2 :=
    workerRun_serveAll Platform.allSucceed crowdedRequests .start
  have table := worker_session_table run (by rw [count]; decide)
  obtain ⟨pid, uptimeMs, payload⟩ :=
    (table.2.2.2 _ _ _ _ _ (runs_respond Platform.allSucceed _)).1 (by decide) ok
  refine ⟨⟨statuses, live⟩, table.2.1, pid, uptimeMs, payload.trans ?_⟩
  rw [show createdIds _ = _ from created, show closedIds _ = _ from closed,
    show WorkerState.requests _ = _ from requests, show WorkerState.errors _ = _ from errors]
  rfl

end DawnShell
