/-
Module: DawnShell.Proofs.SessionSteps
Layer: Proofs
Purpose: Every way an input operation of a codec session can run.  `PumpRun` says what a pump leaves
  behind; `QueueRun` and `EosRun` have one constructor for each way out of `queue_internal` and of
  `dscw_codec_queue_eos`, with the log up to there.  Later proofs take a run apart by these cases and do
  not unfold the operations again.
Trusted boundary: none
Main exports: handedInputs, signalsEos, CodecSession.pumped, PumpRun, QueueRun, EosRun,
  pumpAttempts_run, pumpIfTranscoder_run, queueInternal_run, dscwCodecQueueEos_run
-/
import DawnShell.Codec.Session
import Mathlib.Data.List.Basic

namespace DawnShell

open Wire Interaction

/-! ### What a log hands to the codec -/

/-- One `AMediaCodec_queueInputBuffer` call and its answer. -/
structure HandedInput where
  data : Bytes
  presentationTimeUs : UInt64
  flags : UInt32
  status : MediaStatus
deriving DecidableEq, Repr

/-- The input buffer an exchange hands to a codec, if it is such a call. -/
def handedInput : Interaction.Exchange Platform.Call Platform.Answer → Option HandedInput
  | ⟨.queueInputBuffer _ _ data presentationTimeUs flags, status⟩ =>
      some ⟨data, presentationTimeUs, flags, status⟩
  | _ => none

/-- Every input buffer a log hands to a codec, in order. -/
def handedInputs (log : Platform.Log) : List HandedInput :=
  log.filterMap handedInput

@[simp] theorem handedInputs_nil : handedInputs [] = [] := rfl

/-- The inputs of a log are that of its first exchange, if this hands one over, and those of the rest.
-/
@[simp] theorem handedInputs_cons (exchange : Interaction.Exchange Platform.Call Platform.Answer)
    (log : Platform.Log) :
    handedInputs (exchange :: log) = (handedInput exchange).toList ++ handedInputs log := by
  rw [handedInputs, List.filterMap_cons]
  cases handedInput exchange <;> rfl

/-- The inputs of two logs in sequence are those of the first and then those of the second. -/
@[simp] theorem handedInputs_append (first second : Platform.Log) :
    handedInputs (first ++ second) = handedInputs first ++ handedInputs second :=
  List.filterMap_append

/-- The codec took the buffer. -/
def HandedInput.accepted (input : HandedInput) : Bool := input.status == amediaOk

/-- The buffer carries the end-of-stream flag. -/
def HandedInput.isEos (input : HandedInput) : Bool :=
  input.flags &&& bufferFlagEndOfStream != 0

/-- The buffer is a frame: it has data and no configuration flag. -/
def HandedInput.isFrame (input : HandedInput) : Bool :=
  !input.data.isEmpty && input.flags &&& bufferFlagCodecConfig == 0

/-! ### Pumping -/

/-- The exchange tells the encoder of a transcoder that its input has ended. -/
def signalsEosAt : Exchange Platform.Call Platform.Answer → Bool
  | ⟨.signalEndOfInputStream _, status⟩ => status == amediaOk
  | _ => false

/-- The log tells the encoder of a transcoder that its input has ended. -/
def signalsEos (log : Platform.Log) : Bool := log.any signalsEosAt

@[simp] theorem signalsEos_nil : signalsEos [] = false := rfl

/-- A log signals an end when its first exchange does or the rest. -/
@[simp] theorem signalsEos_cons (exchange : Exchange Platform.Call Platform.Answer)
    (log : Platform.Log) : signalsEos (exchange :: log) = (signalsEosAt exchange || signalsEos log) :=
  List.any_cons

/-- Two logs in sequence signal an end when one of them does. -/
@[simp] theorem signalsEos_append (first second : Platform.Log) :
    signalsEos (first ++ second) = (signalsEos first || signalsEos second) :=
  List.any_append

/-- The session after its pump has made the calls of a log. -/
def CodecSession.pumped (session : CodecSession) (frames : UInt64) (log : Platform.Log) :
    CodecSession :=
  { session with
    surfaceFrames := frames
    encoderEosSignaled := session.encoderEosSignaled || signalsEos log }

/-- The statuses `pump_transcoder` returns. -/
def PumpStatus (status : Int32) : Prop := status = codecOk ∨ status = codecErrorCodec

/-- The exchange makes a pump fail. -/
def failsPump : Exchange Platform.Call Platform.Answer → Bool
  | ⟨.releaseOutputBuffer .., status⟩ => status != amediaOk
  | ⟨.optionalSymbol .signalInputEos, available⟩ => !available
  | ⟨.signalEndOfInputStream _, status⟩ => status != amediaOk
  | _ => false

/-- What a pump leaves behind: it has handed nothing to a codec, it has changed the two fields that are
its own, and it has failed only because of a call that did. -/
structure PumpRun (session : CodecSession) (log : Platform.Log) (outcome : Outcome) : Prop where
  handed : handedInputs log = []
  changed : ∃ frames, outcome.session = session.pumped frames log
  output : outcome.output = []
  status : outcome.status = codecOk ∨
    outcome.status = codecErrorCodec ∧ ∃ exchange ∈ log, failsPump exchange = true

namespace PumpRun

variable {session : CodecSession} {log : Platform.Log} {outcome : Outcome}

/-- A pump ends with one of its own statuses. -/
theorem pumpStatus (run : PumpRun session log outcome) : PumpStatus outcome.status :=
  run.status.imp id And.left

/-- A pump that has nothing to do is OK and leaves the session as it is. -/
theorem done (session : CodecSession) : PumpRun session [] { session, status := codecOk } where
  handed := rfl
  changed := ⟨session.surfaceFrames, by simp [CodecSession.pumped]⟩
  output := rfl
  status := .inl rfl

/-- A pump may end with the first call that fails, which hands nothing over. -/
theorem failed (error : Option String) {exchange : Exchange Platform.Call Platform.Answer}
    (quiet : handedInput exchange = none) (silent : signalsEosAt exchange = false)
    (fails : failsPump exchange = true) :
    PumpRun session [exchange] { session, status := codecErrorCodec, error } where
  handed := by simp [quiet]
  changed := ⟨session.surfaceFrames, by simp [CodecSession.pumped, silent]⟩
  output := rfl
  status := .inr ⟨rfl, exchange, List.mem_singleton_self _, fails⟩

/-- A call in front of a pump that hands nothing over belongs to the pump. -/
theorem after {exchange : Exchange Platform.Call Platform.Answer}
    (quiet : handedInput exchange = none) (silent : signalsEosAt exchange = false)
    (run : PumpRun session log outcome) : PumpRun session (exchange :: log) outcome where
  handed := by simp [quiet, run.handed]
  changed := by
    obtain ⟨frames, same⟩ := run.changed
    exact ⟨frames, by rw [same]; simp [CodecSession.pumped, silent]⟩
  output := run.output
  status := run.status.imp id fun ⟨code, exchange, member, fails⟩ =>
    ⟨code, exchange, List.mem_cons_of_mem _ member, fails⟩

/-- The frame that rendering counts is one of the two fields. -/
theorem of_rendered {rendered : CodecSession} {frames : UInt64}
    (counted : rendered = { session with surfaceFrames := frames })
    (run : PumpRun rendered log outcome) : PumpRun session log outcome where
  handed := run.handed
  changed := by
    obtain ⟨later, same⟩ := run.changed
    exact ⟨later, by rw [same, counted]; rfl⟩
  output := run.output
  status := run.status

end PumpRun

/-- A call that neither hands over nor signals anything can precede a pump. -/
theorem pumpRun_call {session : CodecSession} {request : Platform.Call}
    {rest : Platform.Answer request → Platform Outcome}
    (quiet : ∀ answer, handedInput ⟨request, answer⟩ = none)
    (silent : ∀ answer, signalsEosAt ⟨request, answer⟩ = false)
    (after : ∀ answer, (rest answer).All (PumpRun session)) :
    (Platform.call request >>= rest).All (PumpRun session) := by
  rw [all_bind, all_call]
  intro answer
  exact (after answer).mono fun _ _ run => run.after (quiet answer) (silent answer)

/-- All turns of the pump together hand nothing to the codec and end with one of its statuses. -/
theorem pumpAttempts_run (timeoutMs : UInt32) (remaining attempt : Nat) (session : CodecSession) :
    (pumpAttempts timeoutMs remaining attempt session).All (PumpRun session) := by
  induction remaining generalizing attempt session with
  | zero => exact .done session
  | succ remaining ih =>
      rw [pumpAttempts]
      by_cases ended : session.encoderEosSignaled = true
      · rw [if_pos ended]
        exact .done session
      rw [if_neg ended]
      apply pumpRun_call (fun _ => rfl) (fun _ => rfl)
      intro dequeued
      dsimp only
      by_cases later : dequeued.1 = infoTryAgainLater
      · rw [if_pos later]
        exact .done session
      rw [if_neg later]
      by_cases changed :
          dequeued.1 = infoOutputFormatChanged ∨ dequeued.1 = infoOutputBuffersChanged
      · rw [if_pos changed]
        exact ih _ _
      rw [if_neg changed]
      by_cases negative : dequeued.1 < 0
      · rw [if_pos negative]
        exact ih _ _
      rw [if_neg negative]
      obtain ⟨frames, counted⟩ : ∃ frames,
          (if decide (0 < dequeued.2.size) = true then
            { session with surfaceFrames := session.surfaceFrames + 1 } else session) =
            { session with surfaceFrames := frames } := by
        split
        · exact ⟨_, rfl⟩
        · exact ⟨session.surfaceFrames, rfl⟩
      -- From here on only the session that has rendered matters.
      generalize (if decide (0 < dequeued.2.size) = true then
        { session with surfaceFrames := session.surfaceFrames + 1 } else session) = rendered at *
      refine All.mono ?_ fun _ _ run => PumpRun.of_rendered counted run
      rw [all_bind, all_call]
      intro released
      by_cases failed : released ≠ amediaOk
      · rw [if_pos failed]
        exact .failed _ rfl rfl (bne_iff_ne.mpr failed)
      rw [if_neg failed]
      refine All.mono ?_ fun _ _ run => PumpRun.after rfl rfl run
      by_cases eos : (dequeued.2.flags &&& bufferFlagEndOfStream != 0) = true
      · rw [if_pos eos, all_bind, all_call]
        intro available
        cases available with
        | false => exact .failed _ rfl rfl rfl
        | true =>
            refine All.mono ?_ fun _ _ run => PumpRun.after rfl rfl run
            rw [if_neg (by decide), all_bind, all_call]
            intro signaled
            by_cases refused : signaled ≠ amediaOk
            · rw [if_pos refused]
              exact .failed _ rfl (beq_eq_false_iff_ne.mpr refused) (bne_iff_ne.mpr refused)
            · rw [if_neg refused]
              have taken : signaled = amediaOk := not_not.mp refused
              subst taken
              exact ⟨rfl, ⟨rendered.surfaceFrames, by simp [CodecSession.pumped, signalsEosAt]⟩, rfl,
                .inl rfl⟩
      · rw [if_neg eos]
        exact ih _ _

/-- The pump in front of an operation is a pump, and nothing without a transcoder. -/
theorem pumpIfTranscoder_run (session : CodecSession) :
    (pumpIfTranscoder session).All (PumpRun session) := by
  rw [pumpIfTranscoder]
  split
  · exact pumpAttempts_run 0 16 0 session
  · exact .done session

/-- Without a transcoder the pump makes no call. -/
theorem pumpIfTranscoder_direct (session : CodecSession) (direct : session.transcoder = false) :
    (pumpIfTranscoder session).All fun log pumped =>
      log = [] ∧ pumped = { session, status := codecOk } := by
  rw [pumpIfTranscoder, direct]
  exact ⟨rfl, rfl⟩

/-! ### Queueing -/

/-- The ways out of `queue_internal`, with the log up to there. -/
inductive QueueRun (session : CodecSession) (data : Bytes) (presentationTimeUs : UInt64)
    (flags : UInt32) : Platform.Log → Outcome → Prop where
  /-- The input is closed. -/
  | closed {error : Option String} (eos : session.inputEos = true) :
      QueueRun session data presentationTimeUs flags []
        { session, status := codecErrorSession, error }
  /-- The record is invalid or comes too early. -/
  | invalid {error : Option String} (opened : session.inputEos = false) :
      QueueRun session data presentationTimeUs flags []
        { session, status := codecErrorProtocol, error }
  /-- The pump in front of the record fails. -/
  | stuck {log : Platform.Log} {pumped : Outcome} (opened : session.inputEos = false)
      (pumping : (pumpIfTranscoder session).Runs log pumped) (failed : pumped.status ≠ codecOk) :
      QueueRun session data presentationTimeUs flags log pumped
  /-- No input buffer is free. -/
  | again {log : Platform.Log} {pumped : Outcome} (opened : session.inputEos = false)
      (pumping : (pumpIfTranscoder session).Runs log pumped) (index : Int) :
      QueueRun session data presentationTimeUs flags
        (log ++ [⟨.dequeueInputBuffer session.inputCodec 100000, index⟩])
        { session := pumped.session, status := codecAgain }
  /-- The record does not fit: the input buffer goes back empty. -/
  | bounced {log : Platform.Log} {pumped : Outcome} {error : Option String}
      (opened : session.inputEos = false)
      (pumping : (pumpIfTranscoder session).Runs log pumped) (index : Int)
      (destination : Option Nat) (answer : MediaStatus) :
      QueueRun session data presentationTimeUs flags
        (log ++ [⟨.dequeueInputBuffer session.inputCodec 100000, index⟩,
          ⟨.getInputBuffer session.inputCodec index.toNat, destination⟩,
          ⟨.queueInputBuffer session.inputCodec index.toNat [] presentationTimeUs 0, answer⟩])
        { session := pumped.session, status := codecErrorLimit, error }
  /-- The codec refuses the record. -/
  | refused {log : Platform.Log} {pumped : Outcome} {error : Option String}
      (opened : session.inputEos = false)
      (pumping : (pumpIfTranscoder session).Runs log pumped) (index : Int)
      (destination : Option Nat) (answer : MediaStatus) (failed : answer ≠ amediaOk) :
      QueueRun session data presentationTimeUs flags
        (log ++ [⟨.dequeueInputBuffer session.inputCodec 100000, index⟩,
          ⟨.getInputBuffer session.inputCodec index.toNat, destination⟩,
          ⟨.queueInputBuffer session.inputCodec index.toNat data presentationTimeUs
            (flags &&& bufferFlagCodecConfig), answer⟩])
        { session := pumped.session, status := codecErrorCodec, error }
  /-- The codec takes the record, and the pump runs once more. -/
  | accepted {log later : Platform.Log} {pumped second outcome : Outcome}
      (opened : session.inputEos = false) (nonempty : data ≠ [])
      (known : flags &&& ~~~bufferFlagCodecConfig = 0)
      (increasing : session.encoder = true → session.transcoder = false →
        flags &&& bufferFlagCodecConfig = 0 → session.haveEncoderPts = true →
        session.lastEncoderPts < presentationTimeUs)
      (pumping : (pumpIfTranscoder session).Runs log pumped) (index : Int)
      (destination : Option Nat)
      (pumpingOn : (pumpIfTranscoder
        (pumped.session.acceptInput data presentationTimeUs flags)).Runs later second)
      (same : outcome.session = second.session) (status : outcome.status = second.status) :
      QueueRun session data presentationTimeUs flags
        (log ++ ⟨.dequeueInputBuffer session.inputCodec 100000, index⟩ ::
          ⟨.getInputBuffer session.inputCodec index.toNat, destination⟩ ::
          ⟨.queueInputBuffer session.inputCodec index.toNat data presentationTimeUs
            (flags &&& bufferFlagCodecConfig), amediaOk⟩ :: later) outcome

/-- Queueing is refused before it asks the codec, finds it busy, or hands the data over once and pumps.
-/
theorem queueInternal_run (session : CodecSession) (data : Bytes) (presentationTimeUs : UInt64)
    (flags : UInt32) :
    (queueInternal session data presentationTimeUs flags).All
      (QueueRun session data presentationTimeUs flags) := by
  rw [queueInternal]
  by_cases eos : session.inputEos = true
  · rw [if_pos eos]
    exact .closed eos
  rw [if_neg eos]
  have opened : session.inputEos = false := Bool.eq_false_iff.mpr eos
  by_cases invalid : data.length = 0 ∨ (dscwMaxPayload - 16).toNat < data.length
      ∨ flags &&& ~~~bufferFlagCodecConfig ≠ 0
  · rw [if_pos invalid]
    exact .invalid opened
  rw [if_neg invalid]
  by_cases stale : (session.encoder && !session.transcoder && flags &&& bufferFlagCodecConfig == 0
      && session.haveEncoderPts && decide (presentationTimeUs ≤ session.lastEncoderPts)) = true
  · rw [if_pos stale]
    exact .invalid opened
  rw [if_neg stale, all_bind, all_iff_forall_runs]
  intro log pumped pumping
  by_cases failed : pumped.status ≠ codecOk
  · rw [if_pos failed, all_pure, List.append_nil]
    exact .stuck opened pumping failed
  rw [if_neg failed, all_bind, all_call]
  intro index
  by_cases none : index < 0
  · rw [if_pos none]
    exact .again opened pumping index
  rw [if_neg none, all_bind, all_call]
  intro destination
  by_cases small : destination.all (fun capacity => decide (capacity < data.length)) = true
  · rw [if_pos small, all_bind, all_call]
    intro answer
    exact .bounced opened pumping index destination answer
  rw [if_neg small, all_bind, all_call]
  intro queued
  by_cases refused : queued ≠ amediaOk
  · rw [if_pos refused]
    exact .refused opened pumping index destination queued refused
  have taken : queued = amediaOk := not_not.mp refused
  subst taken
  rw [if_neg refused, all_bind, all_iff_forall_runs]
  intro later second pumpingOn
  have nonempty : data ≠ [] := fun empty => invalid (.inl (by rw [empty]; rfl))
  have known : flags &&& ~~~bufferFlagCodecConfig = 0 :=
    Classical.byContradiction fun unknown => invalid (.inr (.inr unknown))
  have increasing : session.encoder = true → session.transcoder = false →
      flags &&& bufferFlagCodecConfig = 0 → session.haveEncoderPts = true →
      session.lastEncoderPts < presentationTimeUs := by
    intro encoder direct frame started
    refine UInt64.not_le.mp fun early => stale ?_
    simp [encoder, direct, frame, started, early]
  by_cases failed : second.status ≠ codecOk
  · rw [if_pos failed, all_pure, List.append_nil]
    exact .accepted opened nonempty known increasing pumping index destination pumpingOn rfl rfl
  · rw [if_neg failed, all_pure, List.append_nil]
    exact .accepted opened nonempty known increasing pumping index destination pumpingOn rfl
      (not_not.mp failed).symm

/-- Measuring a latency asks for the time once. -/
theorem recordLatency_run (counters : LatencyCounters) (started : UInt64) :
    (recordLatency counters started).All fun log _ => ∃ now, log = [⟨.monotonicNs, now⟩] :=
  fun now => ⟨now, rfl⟩

/-- The ways out of `dscw_codec_queue_eos`, with the log up to there. -/
inductive EosRun (session : CodecSession) (presentationTimeUs : UInt64) :
    Platform.Log → Outcome → Prop where
  /-- The input is closed already. -/
  | closed {error : Option String} (started : UInt64) (eos : session.inputEos = true) :
      EosRun session presentationTimeUs [⟨.monotonicNs, started⟩]
        { session := { session with errors := session.errors + 1 },
          status := codecErrorSession, error }
  /-- The pump in front of the marker fails. -/
  | stuck {log : Platform.Log} {pumped : Outcome} (started : UInt64)
      (opened : session.inputEos = false) (pumping : (pumpIfTranscoder session).Runs log pumped)
      (failed : pumped.status ≠ codecOk) :
      EosRun session presentationTimeUs (⟨.monotonicNs, started⟩ :: log) pumped
  /-- No input buffer is free. -/
  | again {log : Platform.Log} {pumped : Outcome} (started now : UInt64)
      (opened : session.inputEos = false) (pumping : (pumpIfTranscoder session).Runs log pumped)
      (index : Int) (latency : LatencyCounters) :
      EosRun session presentationTimeUs
        (⟨.monotonicNs, started⟩ :: (log ++
          [⟨.dequeueInputBuffer session.inputCodec 100000, index⟩, ⟨.monotonicNs, now⟩]))
        { session := { pumped.session with
            inputAgain := pumped.session.inputAgain + 1
            inputLatency := latency },
          status := codecAgain }
  /-- The codec refuses the marker. -/
  | refused {log : Platform.Log} {pumped : Outcome} {error : Option String} (started now : UInt64)
      (opened : session.inputEos = false) (pumping : (pumpIfTranscoder session).Runs log pumped)
      (index : Int) (latency : LatencyCounters) (answer : MediaStatus) (failed : answer ≠ amediaOk) :
      EosRun session presentationTimeUs
        (⟨.monotonicNs, started⟩ :: (log ++
          [⟨.dequeueInputBuffer session.inputCodec 100000, index⟩,
            ⟨.queueInputBuffer session.inputCodec index.toNat [] presentationTimeUs
              bufferFlagEndOfStream, answer⟩,
            ⟨.monotonicNs, now⟩]))
        { session := { pumped.session with
            inputLatency := latency
            errors := pumped.session.errors + 1 },
          status := codecErrorCodec, error }
  /-- The codec takes the marker, and the pump runs once more. -/
  | accepted {log later : Platform.Log} {pumped second : Outcome} (started now : UInt64)
      (opened : session.inputEos = false) (pumping : (pumpIfTranscoder session).Runs log pumped)
      (index : Int) (latency : LatencyCounters)
      (pumpingOn : (pumpIfTranscoder { pumped.session with
        inputLatency := latency
        inputEos := true
        inputEosCount := pumped.session.inputEosCount + 1 }).Runs later second) :
      EosRun session presentationTimeUs
        (⟨.monotonicNs, started⟩ :: (log ++
          ⟨.dequeueInputBuffer session.inputCodec 100000, index⟩ ::
            ⟨.queueInputBuffer session.inputCodec index.toNat [] presentationTimeUs
              bufferFlagEndOfStream, amediaOk⟩ ::
            ⟨.monotonicNs, now⟩ :: later)) second

/-- An EOS is answered from the state of the session, or pumps and hands one mark over, and pumps again.
-/
theorem dscwCodecQueueEos_run (session : CodecSession) (presentationTimeUs : UInt64) :
    (dscwCodecQueueEos session presentationTimeUs).All (EosRun session presentationTimeUs) := by
  rw [dscwCodecQueueEos, all_bind, all_call]
  intro started
  by_cases eos : session.inputEos = true
  · rw [if_pos eos]
    exact .closed started eos
  rw [if_neg eos]
  have opened : session.inputEos = false := Bool.eq_false_iff.mpr eos
  rw [all_bind, all_iff_forall_runs]
  intro log pumped pumping
  by_cases failed : pumped.status ≠ codecOk
  · rw [if_pos failed, all_pure, List.append_nil]
    exact .stuck started opened pumping failed
  rw [if_neg failed, all_bind, all_call]
  intro index
  by_cases none : index < 0
  · rw [if_pos none, all_bind]
    refine (recordLatency_run _ _).mono ?_
    rintro _ latency ⟨now, rfl⟩
    exact .again started now opened pumping index latency
  rw [if_neg none, all_bind, all_call]
  intro queued
  rw [all_bind]
  refine (recordLatency_run _ _).mono ?_
  rintro _ latency ⟨now, rfl⟩
  by_cases refused : queued ≠ amediaOk
  · rw [if_pos refused]
    exact .refused started now opened pumping index latency queued refused
  have taken : queued = amediaOk := not_not.mp refused
  subst taken
  rw [if_neg refused, all_iff_forall_runs]
  intro later second pumpingOn
  exact .accepted started now opened pumping index latency pumpingOn

end DawnShell
