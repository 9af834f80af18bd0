/-
Module: DawnShell.Proofs.SessionInput
Layer: Proofs
Purpose: The input law of a codec session over whole runs.  Every call is a move of a small input state
  machine (`InputStep`); on its runs, after an accepted EOS nothing more is handed over until a flush
  succeeds, at most one EOS is accepted between two flushes, and a ByteBuffer encoder sees strictly
  increasing timestamps.
Trusted boundary: none
Main exports: SessionOp, SessionRun, InputState, InputStep, InputRun, SessionRun.inputRun,
  session_input_law
-/
import DawnShell.Proofs.SessionEffects

namespace DawnShell

open Wire

/-! ### Runs -/

/-- The calls on a session that the input law is about. -/
inductive SessionOp where
  | queue (data : Bytes) (presentationTimeUs : UInt64) (flags : UInt32)
  | queueEos (presentationTimeUs : UInt64)
  | dequeue (timeoutMs : UInt32) (capacity : Nat)
  | flush
deriving DecidableEq, Repr

namespace SessionOp

def perform : SessionOp → CodecSession → Platform Outcome
  | .queue data presentationTimeUs flags, session =>
      dscwCodecQueue session data presentationTimeUs flags
  | .queueEos presentationTimeUs, session => dscwCodecQueueEos session presentationTimeUs
  | .dequeue timeoutMs capacity, session => dscwCodecDequeue session timeoutMs capacity
  | .flush, session => dscwCodecFlush session

/-- `dscw_codec_queue` and `dscw_codec_queue_eos`. -/
def isInput : SessionOp → Bool
  | .queue .. | .queueEos _ => true
  | .dequeue .. | .flush => false

end SessionOp

/-- One call of a run: what was called, what it exchanged with the platform, what it returned. -/
structure OpRecord where
  op : SessionOp
  log : Platform.Log
  status : Int32

namespace OpRecord

/-- A flush that returned OK. -/
def flushed (record : OpRecord) : Bool := record.op == .flush && record.status == codecOk

/-- The inputs of a call that the codec took. -/
def acceptedInputs (record : OpRecord) : List HandedInput :=
  (handedInputs record.log).filter HandedInput.accepted

/-- The end-of-stream markers of a call that the codec took. -/
def acceptedEos (record : OpRecord) : List HandedInput :=
  record.acceptedInputs.filter HandedInput.isEos

/-- The timestamps of the frames of a call that the codec took. -/
def acceptedPts (record : OpRecord) : List UInt64 :=
  (record.acceptedInputs.filter HandedInput.isFrame).map HandedInput.presentationTimeUs

end OpRecord

/-- `SessionRun session records after`: the calls of `records`, one after the other against some
platform, take `session` to `after`. -/
inductive SessionRun : CodecSession → List OpRecord → CodecSession → Prop where
  | nil (session : CodecSession) : SessionRun session [] session
  | cons {session after : CodecSession} {op : SessionOp} {log : Platform.Log} {outcome : Outcome}
      {records : List OpRecord} (run : (op.perform session).Runs log outcome)
      (rest : SessionRun outcome.session records after) :
      SessionRun session (⟨op, log, outcome.status⟩ :: records) after

/-! ### The input state machine -/

/-- The part of a session that decides which input it takes. -/
structure InputState where
  transcoder : Bool
  encoder : Bool
  inputEos : Bool
  haveEncoderPts : Bool
  lastEncoderPts : UInt64
deriving DecidableEq, Repr

def CodecSession.inputState (session : CodecSession) : InputState where
  transcoder := session.transcoder
  encoder := session.encoder
  inputEos := session.inputEos
  haveEncoderPts := session.haveEncoderPts
  lastEncoderPts := session.lastEncoderPts

namespace InputState

/-- A ByteBuffer encoder: the kind of session whose timestamps are checked. -/
def byteBufferEncoder (state : InputState) : Bool := state.encoder && !state.transcoder

/-- A frame is taken. -/
def takeFrame (state : InputState) (presentationTimeUs : UInt64) : InputState :=
  if state.byteBufferEncoder then
    { state with haveEncoderPts := true, lastEncoderPts := presentationTimeUs }
  else state

/-- The end-of-stream marker is taken. -/
def takeEos (state : InputState) : InputState := { state with inputEos := true }

/-- A flush succeeds. -/
def reopen (state : InputState) : InputState :=
  { state with inputEos := false, haveEncoderPts := false }

@[simp] theorem byteBufferEncoder_takeFrame (state : InputState) (presentationTimeUs : UInt64) :
    (state.takeFrame presentationTimeUs).byteBufferEncoder = state.byteBufferEncoder := by
  unfold takeFrame
  split <;> rfl

@[simp] theorem byteBufferEncoder_takeEos (state : InputState) :
    state.takeEos.byteBufferEncoder = state.byteBufferEncoder := rfl

@[simp] theorem byteBufferEncoder_reopen (state : InputState) :
    state.reopen.byteBufferEncoder = state.byteBufferEncoder := rfl

end InputState

/-- Only a byte-buffer encoder compares the times of its frames; a transcoder does not. -/
theorem byteBufferEncoder_inputState (session : CodecSession) :
    session.inputState.byteBufferEncoder = (session.encoder && !session.transcoder) := rfl

/-- Sessions with the same input side are in the same state of the abstract input. -/
theorem SameInput.inputState_eq {before after : CodecSession} (same : SameInput before after) :
    after.inputState = before.inputState := by
  simp only [CodecSession.inputState, same.transcoder, same.encoder, same.inputEos,
    same.haveEncoderPts, same.lastEncoderPts]

/-- The moves of the input side of a session, one for each way a call can end. -/
inductive InputStep (state : InputState) (record : OpRecord) : InputState → Prop where
  /-- A closed input takes nothing. -/
  | closed (eos : state.inputEos = true) (clock : OnlyClock record.log)
      (result : record.status = codecErrorSession) (unflushed : record.flushed = false) :
      InputStep state record state
  /-- No frame and no marker is taken. -/
  | idle (opened : record.op.isInput = true → state.inputEos = false)
      (noEos : record.acceptedEos = []) (noFrame : record.acceptedPts = [])
      (unflushed : record.flushed = false) : InputStep state record state
  | frame (opened : state.inputEos = false) (presentationTimeUs : UInt64)
      (increasing : state.byteBufferEncoder = true → state.haveEncoderPts = true →
        state.lastEncoderPts < presentationTimeUs)
      (noEos : record.acceptedEos = []) (taken : record.acceptedPts = [presentationTimeUs])
      (unflushed : record.flushed = false) :
      InputStep state record (state.takeFrame presentationTimeUs)
  | eos (opened : state.inputEos = false) (marker : HandedInput)
      (taken : record.acceptedEos = [marker]) (noFrame : record.acceptedPts = [])
      (unflushed : record.flushed = false) : InputStep state record state.takeEos
  | flushed (flush : record.flushed = true) (nothing : handedInputs record.log = []) :
      InputStep state record state.reopen

/-- A record is no end of stream, since only its configuration flag is passed on. -/
theorem isEos_record (data : Bytes) (presentationTimeUs : UInt64) (flags : UInt32)
    (status : MediaStatus) :
    HandedInput.isEos ⟨data, presentationTimeUs, flags &&& bufferFlagCodecConfig, status⟩ = false := by
  have disjoint : bufferFlagCodecConfig &&& bufferFlagEndOfStream = 0 := by decide
  simp [HandedInput.isEos, UInt32.and_assoc, disjoint]

/-- A record with data is a frame unless it is flagged as configuration. -/
theorem isFrame_record {data : Bytes} (nonempty : data ≠ []) (presentationTimeUs : UInt64)
    (flags : UInt32) (status : MediaStatus) :
    HandedInput.isFrame ⟨data, presentationTimeUs, flags &&& bufferFlagCodecConfig, status⟩ =
      (flags &&& bufferFlagCodecConfig == 0) := by
  simp [HandedInput.isFrame, UInt32.and_assoc, nonempty]

/-- An accepted record takes the abstract input to the state behind its frame, and configuration leaves
it where it is. -/
theorem acceptInput_inputState (session : CodecSession) (data : Bytes) (presentationTimeUs : UInt64)
    (flags : UInt32) :
    (session.acceptInput data presentationTimeUs flags).inputState =
      if flags &&& bufferFlagCodecConfig = 0 then session.inputState.takeFrame presentationTimeUs
      else session.inputState := by
  have kindEq := byteBufferEncoder_inputState session
  unfold CodecSession.acceptInput InputState.takeFrame
  by_cases plain : flags &&& bufferFlagCodecConfig = 0
  · simp only [if_pos plain]
    cases kind : session.inputState.byteBufferEncoder with
    | true =>
        rw [if_pos rfl, if_pos (kindEq.symm.trans kind)]
        rfl
    | false =>
        rw [if_neg Bool.false_ne_true, if_neg (by rw [← kindEq, kind]; exact Bool.false_ne_true)]
        rfl
  · simp only [if_neg plain]
    rfl

section Idle

variable {session after : CodecSession} {record : OpRecord}

/-- Where nothing is handed over nothing is accepted. -/
theorem acceptedInputs_of_nothing (nothing : handedInputs record.log = []) :
    record.acceptedInputs = [] := by
  rw [OpRecord.acceptedInputs, nothing, List.filter_nil]

/-- What the codec has refused is not accepted. -/
theorem acceptedInputs_of_refused {input : HandedInput} (handed : handedInputs record.log = [input])
    (failed : input.status ≠ amediaOk) : record.acceptedInputs = [] := by
  simp [OpRecord.acceptedInputs, handed, HandedInput.accepted, failed]

/-- A call of which the codec took nothing leaves the input side as it is. -/
theorem inputStep_of_nothingAccepted (same : SameInput session after)
    (opened : record.op.isInput = true → session.inputEos = false)
    (nothing : record.acceptedInputs = []) (unflushed : record.flushed = false) :
    InputStep session.inputState record after.inputState := by
  rw [same.inputState_eq]
  refine .idle opened ?_ ?_ unflushed
  · rw [OpRecord.acceptedEos, nothing, List.filter_nil]
  · rw [OpRecord.acceptedPts, nothing, List.filter_nil, List.map_nil]

end Idle

/-- Every effect of a `QUEUE` is a step of the abstract input, with its status; the timestamps of an
encoder are compared in this step. -/
theorem QueueEffect.inputStep {session after : CodecSession} {data : Bytes}
    {presentationTimeUs : UInt64} {flags : UInt32} {log : Platform.Log} {status : Int32}
    (effect : QueueEffect session data presentationTimeUs flags log after status) :
    InputStep session.inputState ⟨.queue data presentationTimeUs flags, log, status⟩
      after.inputState := by
  cases effect with
  | closed eos clock same result =>
      rw [same.inputState_eq]
      exact .closed eos clock result rfl
  | rejected opened nothing same result =>
      exact inputStep_of_nothingAccepted same (fun _ => opened) (acceptedInputs_of_nothing nothing) rfl
  | bounced opened answer handed same result =>
      -- The empty buffer may be taken, but it is neither a frame nor a marker.
      rw [same.inputState_eq]
      refine .idle (fun _ => opened) ?_ ?_ rfl <;>
        simp [OpRecord.acceptedEos, OpRecord.acceptedPts, OpRecord.acceptedInputs, handed,
          HandedInput.isEos, HandedInput.isFrame, List.filter_cons, apply_ite]
  | refused opened answer failed handed same result =>
      exact inputStep_of_nothingAccepted same (fun _ => opened) (acceptedInputs_of_refused handed failed)
        rfl
  | accepted opened nonempty known increasing handed same result =>
      have frame := isFrame_record nonempty presentationTimeUs flags amediaOk
      have noEos := isEos_record data presentationTimeUs flags amediaOk
      rw [same.inputState_eq, acceptInput_inputState]
      split
      next plain =>
        refine .frame opened presentationTimeUs ?_ ?_ ?_ rfl
        · intro kind started
          simp only [InputState.byteBufferEncoder, Bool.and_eq_true, Bool.not_eq_true'] at kind
          exact increasing kind.1 kind.2 plain started
        · simp [OpRecord.acceptedEos, OpRecord.acceptedInputs, handed, HandedInput.accepted, noEos]
        · rw [plain, beq_self_eq_true] at frame
          rw [OpRecord.acceptedPts, OpRecord.acceptedInputs, handed]
          simp [HandedInput.accepted, plain, frame]
      next config =>
        refine .idle (fun _ => opened) ?_ ?_ rfl
        · simp [OpRecord.acceptedEos, OpRecord.acceptedInputs, handed, HandedInput.accepted, noEos]
        · simp [OpRecord.acceptedPts, OpRecord.acceptedInputs, handed, HandedInput.accepted, frame,
            config]

/-- Every effect of an EOS is a step of the abstract input; behind one that the codec took, the input is
ended. -/
theorem EosEffect.inputStep {session after : CodecSession} {presentationTimeUs : UInt64}
    {log : Platform.Log} {status : Int32}
    (effect : EosEffect session presentationTimeUs log after status) :
    InputStep session.inputState ⟨.queueEos presentationTimeUs, log, status⟩ after.inputState := by
  cases effect with
  | closed eos clock same result =>
      rw [same.inputState_eq]
      exact .closed eos clock result rfl
  | rejected opened nothing same result =>
      exact inputStep_of_nothingAccepted same (fun _ => opened) (acceptedInputs_of_nothing nothing) rfl
  | refused opened answer failed handed same result =>
      exact inputStep_of_nothingAccepted same (fun _ => opened) (acceptedInputs_of_refused handed failed)
        rfl
  | accepted opened handed same result =>
      rw [same.inputState_eq]
      refine .eos opened ⟨[], presentationTimeUs, bufferFlagEndOfStream, amediaOk⟩ ?_ ?_ rfl
      · have marked : bufferFlagEndOfStream ≠ 0 := by decide
        simp [OpRecord.acceptedEos, OpRecord.acceptedInputs, handed, HandedInput.accepted,
          HandedInput.isEos, marked]
      · simp [OpRecord.acceptedPts, OpRecord.acceptedInputs, handed, HandedInput.accepted,
          HandedInput.isFrame]

/-- Every effect of a flush is a step of the abstract input. -/
theorem FlushEffect.inputStep {session after : CodecSession} {log : Platform.Log} {status : Int32}
    (effect : FlushEffect session log after status) :
    InputStep session.inputState ⟨.flush, log, status⟩ after.inputState := by
  cases effect with
  | failed nothing same result =>
      have unflushed : (codecErrorCodec == codecOk) = false := by decide
      apply inputStep_of_nothingAccepted same (by rintro ⟨⟩) (acceptedInputs_of_nothing nothing)
      simp [OpRecord.flushed, result, unflushed]
  | flushed nothing same result =>
      rw [same.inputState_eq]
      exact .flushed (by simp [OpRecord.flushed, result]) nothing

/-- Every call of a session is a move of its input state machine. -/
theorem perform_inputStep {op : SessionOp} {session : CodecSession} {log : Platform.Log}
    {outcome : Outcome} (run : (op.perform session).Runs log outcome) :
    InputStep session.inputState ⟨op, log, outcome.status⟩ outcome.session.inputState := by
  cases op with
  | queue data presentationTimeUs flags =>
      exact (run.of_all (dscwCodecQueue_effect session data presentationTimeUs flags)).inputStep
  | queueEos presentationTimeUs =>
      exact (run.of_all (dscwCodecQueueEos_effect session presentationTimeUs)).inputStep
  | dequeue timeoutMs capacity =>
      obtain ⟨nothing, same, _⟩ := run.of_all (dscwCodecDequeue_keepsInput timeoutMs capacity)
      exact inputStep_of_nothingAccepted same (by rintro ⟨⟩) (acceptedInputs_of_nothing nothing) rfl
  | flush => exact (run.of_all (dscwCodecFlush_effect session)).inputStep

/-! ### The input law -/

/-- A run of the input state machine. -/
inductive InputRun : InputState → List OpRecord → InputState → Prop where
  | nil (state : InputState) : InputRun state [] state
  | cons {state next after : InputState} {record : OpRecord} {records : List OpRecord}
      (step : InputStep state record next) (rest : InputRun next records after) :
      InputRun state (record :: records) after

/-- Runs of a session are runs of its input state machine. -/
theorem SessionRun.inputRun {session after : CodecSession} {records : List OpRecord}
    (run : SessionRun session records after) :
    InputRun session.inputState records after.inputState := by
  induction run with
  | nil session => exact .nil _
  | cons step rest ih => exact .cons (perform_inputStep step) ih

namespace InputRun

variable {state after : InputState} {records : List OpRecord}

theorem split {first second : List OpRecord} (run : InputRun state (first ++ second) after) :
    ∃ middle, InputRun state first middle ∧ InputRun middle second after := by
  induction first generalizing state with
  | nil => exact ⟨state, .nil state, run⟩
  | cons record first ih =>
      cases run with
      | cons step rest =>
          obtain ⟨middle, one, two⟩ := ih rest
          exact ⟨middle, .cons step one, two⟩

theorem byteBufferEncoder_eq (run : InputRun state records after) :
    after.byteBufferEncoder = state.byteBufferEncoder := by
  induction run with
  | nil state => rfl
  | cons step rest ih =>
      rw [ih]
      cases step <;> simp

/-- Until a flush succeeds, a closed input refuses every call and stays closed. -/
theorem closed (run : InputRun state records after) (eos : state.inputEos = true)
    (unflushed : ∀ record ∈ records, record.flushed = false) :
    ∀ record ∈ records, record.acceptedEos = [] ∧
      (record.op.isInput = true → record.status = codecErrorSession ∧ OnlyClock record.log) := by
  induction run with
  | nil state => simp
  | cons step rest ih =>
      rw [List.forall_mem_cons] at unflushed ⊢
      cases step with
      | closed _ clock result _ =>
          refine ⟨⟨?_, fun _ => ⟨result, clock⟩⟩, ih eos unflushed.2⟩
          simp [OpRecord.acceptedEos, OpRecord.acceptedInputs, clock.handedInputs_eq]
      | idle opened noEos _ _ =>
          refine ⟨⟨noEos, fun input => ?_⟩, ih eos unflushed.2⟩
          rw [opened input] at eos
          contradiction
      | frame opened =>
          rw [opened] at eos
          contradiction
      | eos opened =>
          rw [opened] at eos
          contradiction
      | flushed flush _ =>
          rw [unflushed.1] at flush
          contradiction

/-- At most one marker is taken until a flush succeeds. The induction is on the run, with the ended
input as its invariant. -/
theorem length_acceptedEos_le (run : InputRun state records after)
    (unflushed : ∀ record ∈ records, record.flushed = false) :
    (records.flatMap OpRecord.acceptedEos).length ≤ 1 := by
  induction run with
  | nil state => simp
  | cons step rest ih =>
      rw [List.forall_mem_cons] at unflushed
      rw [List.flatMap_cons, List.length_append]
      have tail := ih unflushed.2
      cases step with
      | closed _ clock _ _ =>
          simpa [OpRecord.acceptedEos, OpRecord.acceptedInputs, clock.handedInputs_eq] using tail
      | idle _ noEos _ _ => simpa [noEos] using tail
      | frame _ _ _ noEos _ _ => simpa [noEos] using tail
      | eos _ marker taken _ _ =>
          have silent := List.flatMap_eq_nil_iff.mpr fun record member =>
            (closed rest rfl unflushed.2 record member).1
          simp [taken, silent]
      | flushed flush _ =>
          rw [unflushed.1] at flush
          contradiction

/-- The timestamps a ByteBuffer encoder takes increase until a flush succeeds, and they are all
later than the last one taken before. -/
theorem pairwise_acceptedPts (run : InputRun state records after)
    (kind : state.byteBufferEncoder = true)
    (unflushed : ∀ record ∈ records, record.flushed = false) :
    (records.flatMap OpRecord.acceptedPts).Pairwise (· < ·) ∧
      (state.haveEncoderPts = true →
        ∀ presentationTimeUs ∈ records.flatMap OpRecord.acceptedPts,
          state.lastEncoderPts < presentationTimeUs) := by
  induction run with
  | nil state => simp
  | cons step rest ih =>
      rw [List.forall_mem_cons] at unflushed
      rw [List.flatMap_cons]
      cases step with
      | closed _ clock _ _ =>
          simpa [OpRecord.acceptedPts, OpRecord.acceptedInputs, clock.handedInputs_eq]
            using ih kind unflushed.2
      | idle _ _ noFrame _ => simpa [noFrame] using ih kind unflushed.2
      | frame _ presentationTimeUs increasing _ taken _ =>
          obtain ⟨ordered, later⟩ := ih (by simpa using kind) unflushed.2
          rw [InputState.takeFrame, if_pos kind] at later
          rw [taken, List.singleton_append]
          refine ⟨List.pairwise_cons.mpr ⟨later rfl, ordered⟩, fun started other member => ?_⟩
          have above := increasing kind started
          rcases List.mem_cons.mp member with rfl | member
          · exact above
          · exact UInt64.lt_trans above (later rfl other member)
      | eos _ _ _ noFrame _ => simpa [noFrame, InputState.takeEos] using ih kind unflushed.2
      | flushed flush _ =>
          rw [unflushed.1] at flush
          contradiction

/-- The call that takes the marker closes the input. -/
theorem inputEos_of_acceptedEos {record : OpRecord} (step : InputStep state record after)
    (taken : record.acceptedEos ≠ []) : after.inputEos = true := by
  cases step with
  | closed _ clock _ _ =>
      exact absurd (by simp [OpRecord.acceptedEos, OpRecord.acceptedInputs, clock.handedInputs_eq])
        taken
  | idle _ noEos _ _ => exact absurd noEos taken
  | frame _ _ _ noEos _ _ => exact absurd noEos taken
  | eos => rfl
  | flushed _ nothing =>
      exact absurd (by simp [OpRecord.acceptedEos, OpRecord.acceptedInputs, nothing]) taken

end InputRun

/-- The input law of a codec session, over every run of its operations from any state and against
any platform.  After a call whose end-of-stream marker the codec took, and until a flush returns OK,
every queue and queue-EOS returns the session error having done nothing but read the clock; in any
stretch without a successful flush the codec takes at most one marker; and there a ByteBuffer encoder
takes frames of strictly increasing timestamps only. -/
theorem session_input_law {session after : CodecSession} {records : List OpRecord}
    (run : SessionRun session records after) :
    (∀ before eos middle later rest, records = before ++ eos :: (middle ++ later :: rest) →
      eos.acceptedEos ≠ [] → (∀ record ∈ middle, record.flushed = false) →
      later.op.isInput = true →
      later.status = codecErrorSession ∧ OnlyClock later.log ∧ handedInputs later.log = []) ∧
    (∀ before segment rest, records = before ++ segment ++ rest →
      (∀ record ∈ segment, record.flushed = false) →
      (segment.flatMap OpRecord.acceptedEos).length ≤ 1) ∧
    (session.encoder = true → session.transcoder = false →
      ∀ before segment rest, records = before ++ segment ++ rest →
      (∀ record ∈ segment, record.flushed = false) →
      (segment.flatMap OpRecord.acceptedPts).Pairwise (· < ·)) := by
  have abstractRun := run.inputRun
  refine ⟨?_, ?_, ?_⟩
  · intro before eos middle later rest shape taken unflushed input
    rw [shape] at abstractRun
    obtain ⟨_, _, fromEos⟩ := abstractRun.split
    cases fromEos with
    | cons step fromMiddle =>
        have eosSet := InputRun.inputEos_of_acceptedEos step taken
        rw [List.append_cons] at fromMiddle
        obtain ⟨_, toLater, _⟩ := fromMiddle.split
        have laterUnflushed : later.flushed = false := by
          cases laterOp : later.op <;> simp_all [OpRecord.flushed, SessionOp.isInput]
        have allUnflushed : ∀ record ∈ middle ++ [later], record.flushed = false := by
          intro record member
          rcases List.mem_append.mp member with inMiddle | isLater
          · exact unflushed record inMiddle
          · rwa [List.mem_singleton.mp isLater]
        have refused := (toLater.closed eosSet allUnflushed later (by simp)).2 input
        exact ⟨refused.1, refused.2, refused.2.handedInputs_eq⟩
  · intro before segment rest shape unflushed
    rw [shape] at abstractRun
    obtain ⟨_, upTo, _⟩ := abstractRun.split
    obtain ⟨_, _, inside⟩ := upTo.split
    exact inside.length_acceptedEos_le unflushed
  · intro encoder direct before segment rest shape unflushed
    rw [shape] at abstractRun
    obtain ⟨_, upTo, _⟩ := abstractRun.split
    obtain ⟨_, outside, inside⟩ := upTo.split
    have kind := outside.byteBufferEncoder_eq
    rw [byteBufferEncoder_inputState, encoder, direct] at kind
    exact (inside.pairwise_acceptedPts kind unflushed).1

/-- A queue after the end of the stream, on an encoder whose platform takes everything. -/
theorem session_input_law_encoder_after_eos :
    let first := (SessionOp.queueEos 0).perform { encoder := true, codec := some 1 }
    let eos := first.respond Platform.allSucceed
    let second := (SessionOp.queue [1] 5 0).perform eos.2.session
    let late := second.respond Platform.allSucceed
    eos.2.status = codecOk ∧ late.2.status = codecErrorSession ∧ handedInputs late.1 = [] := by
  intro first eos second late
  have run : SessionRun { encoder := true, codec := some 1 }
      [⟨.queueEos 0, eos.1, eos.2.status⟩, ⟨.queue [1] 5 0, late.1, late.2.status⟩]
      late.2.session :=
    .cons (Interaction.runs_respond _ _) (.cons (Interaction.runs_respond _ _) (.nil _))
  obtain ⟨status, _, nothing⟩ := (session_input_law run).1 [] _ [] _ [] rfl (by decide) (by simp) rfl
  exact ⟨rfl, status, nothing⟩

end DawnShell
