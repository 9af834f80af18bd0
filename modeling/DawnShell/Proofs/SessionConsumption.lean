/-
Module: DawnShell.Proofs.SessionConsumption
Layer: Proofs
Purpose: Which side of the commit point a status stands on.  A call that queues a packet or an EOS and
  returns AGAIN has handed nothing to the codec; one that returns a negative status has had nothing
  accepted, except for a transcoder whose second pump fails behind an accepted packet.  Either way the
  counters agree with what the codec has accepted.
Trusted boundary: none
Main exports: acceptedData, acceptedMarks, Unconsumed, FailureSide, queue_failure_consumes
-/
import DawnShell.Proofs.SessionEffects

namespace DawnShell

open Wire Interaction

/-! ### What the codec has accepted -/

/-- The buffers with data that a log had accepted. -/
def acceptedData (log : Platform.Log) : List HandedInput :=
  (handedInputs log).filter fun input => input.accepted && !input.data.isEmpty

/-- The end-of-stream markers that a log had accepted. -/
def acceptedMarks (log : Platform.Log) : List HandedInput :=
  (handedInputs log).filter fun input => input.accepted && input.isEos

@[simp] theorem acceptedData_of_handed_nil {log : Platform.Log} (nothing : handedInputs log = []) :
    acceptedData log = [] := by
  rw [acceptedData, nothing, List.filter_nil]

@[simp] theorem acceptedMarks_of_handed_nil {log : Platform.Log} (nothing : handedInputs log = []) :
    acceptedMarks log = [] := by
  rw [acceptedMarks, nothing, List.filter_nil]

/-- Packets and EOS markers of a log, and the session after it: nothing was accepted and the input side
is as before. -/
structure Unconsumed (session : CodecSession) (log : Platform.Log) (after : CodecSession) : Prop where
  data : acceptedData log = []
  marks : acceptedMarks log = []
  same : SameInput session after

section Effects

variable {session after : CodecSession} {data : Bytes} {presentationTimeUs : UInt64}
  {flags : UInt32} {log : Platform.Log} {status : Int32}

/-- An empty record that is handed back carries no data, whatever the codec answers. -/
theorem acceptedData_bounced {answer : MediaStatus}
    (handed : handedInputs log = [⟨[], presentationTimeUs, 0, answer⟩]) : acceptedData log = [] := by
  simp [acceptedData, handed]

/-- An empty record without a flag is no mark, whatever the codec answers. -/
theorem acceptedMarks_bounced {answer : MediaStatus}
    (handed : handedInputs log = [⟨[], presentationTimeUs, 0, answer⟩]) : acceptedMarks log = [] := by
  simp [acceptedMarks, handed, HandedInput.isEos]

/-- Where nothing was handed over and the input side is the same, nothing was consumed. -/
theorem unconsumed_of_nothing (nothing : handedInputs log = []) (same : SameInput session after) :
    Unconsumed session log after :=
  ⟨acceptedData_of_handed_nil nothing, acceptedMarks_of_handed_nil nothing, same⟩

/-- What the codec has refused was not consumed, if the input side is the same. -/
theorem unconsumed_of_refused {input : HandedInput} (handed : handedInputs log = [input])
    (failed : input.status ≠ amediaOk) (same : SameInput session after) :
    Unconsumed session log after := by
  refine ⟨?_, ?_, same⟩ <;> simp [acceptedData, acceptedMarks, handed, HandedInput.accepted, failed]

/-- A queue that was not accepted has consumed nothing. -/
theorem QueueEffect.consumes
    (effect : QueueEffect session data presentationTimeUs flags log after status) :
    (Unconsumed session log after ∧ status ≠ codecOk) ∨
      PumpStatus status ∧ data ≠ [] ∧
        handedInputs log = [⟨data, presentationTimeUs, flags &&& bufferFlagCodecConfig, amediaOk⟩] ∧
        SameInput (session.acceptInput data presentationTimeUs flags) after := by
  cases effect with
  | closed _ clock same result =>
      exact .inl ⟨unconsumed_of_nothing clock.handedInputs_eq same, by rw [result]; decide⟩
  | rejected _ nothing same result =>
      exact .inl ⟨unconsumed_of_nothing nothing same, result⟩
  | bounced _ answer handed same result =>
      exact .inl ⟨⟨acceptedData_bounced handed, acceptedMarks_bounced handed, same⟩,
        by rw [result]; decide⟩
  | refused _ answer failed handed same result =>
      exact .inl ⟨unconsumed_of_refused handed failed same, by rw [result]; decide⟩
  | accepted _ nonempty _ _ handed same result => exact .inr ⟨result, nonempty, handed, same⟩

/-- An EOS is consumed or not as a whole, and the status tells which on all paths but those of the pump.
-/
theorem EosEffect.consumes (effect : EosEffect session presentationTimeUs log after status) :
    (Unconsumed session log after ∧ status ≠ codecOk) ∨
      PumpStatus status ∧
        handedInputs log = [⟨[], presentationTimeUs, bufferFlagEndOfStream, amediaOk⟩] ∧
        SameInput
          { session with inputEos := true, inputEosCount := session.inputEosCount + 1 } after := by
  cases effect with
  | closed _ clock same result =>
      exact .inl ⟨unconsumed_of_nothing clock.handedInputs_eq same, by rw [result]; decide⟩
  | rejected _ nothing same result =>
      exact .inl ⟨unconsumed_of_nothing nothing same, result⟩
  | refused _ answer failed handed same result =>
      exact .inl ⟨unconsumed_of_refused handed failed same, by rw [result]; decide⟩
  | accepted _ handed same result => exact .inr ⟨result, handed, same⟩

end Effects

/-! ### Sessions without a pump -/

section Direct

variable {session : CodecSession} {data : Bytes} {presentationTimeUs : UInt64} {flags : UInt32}

/-- Counting an input does not make a session a transcoder. -/
theorem acceptInput_transcoder :
    (session.acceptInput data presentationTimeUs flags).transcoder = session.transcoder := by
  unfold CodecSession.acceptInput
  dsimp only
  split
  · split <;> rfl
  · rfl

/-- A session that is no transcoder returns what the codec has said about the packet. -/
def SaysAccepted (log : Platform.Log) (outcome : Outcome) : Prop :=
  (∃ input ∈ handedInputs log, input.accepted = true ∧ (input.data ≠ [] ∨ input.isEos = true)) →
    outcome.status = codecOk

/-- Where nothing was handed over the status cannot be wrong about it. -/
theorem saysAccepted_of_silent {log : Platform.Log} {outcome : Outcome}
    (nothing : handedInputs log = []) : SaysAccepted log outcome := by
  rintro ⟨input, member, -⟩
  rw [nothing] at member
  cases member

/-- Where the codec has refused the input, or this was empty, the status is not OK. -/
theorem saysAccepted_of_refused {log : Platform.Log} {outcome : Outcome} {input : HandedInput}
    (handed : handedInputs log = [input])
    (refused : input.accepted = false ∨ input.data = [] ∧ input.isEos = false) :
    SaysAccepted log outcome := by
  rintro ⟨other, member, taken, carries⟩
  rw [handed, List.mem_singleton] at member
  subst member
  rcases refused with refused | ⟨empty, unmarked⟩
  · rw [refused] at taken
    cases taken
  · rw [empty, unmarked] at carries
    simp at carries

/-- A session that is no transcoder is not pumped. -/
theorem pumping_direct {later : Platform.Log} {second : Outcome}
    (pumping : (pumpIfTranscoder session).Runs later second) (direct : session.transcoder = false) :
    second.status = codecOk := by
  rw [(pumping.of_all (pumpIfTranscoder_direct session direct)).2]

/-- Outside a transcoder queueing is OK exactly if the codec has accepted the data. -/
theorem queueInternal_direct (direct : session.transcoder = false) :
    (queueInternal session data presentationTimeUs flags).All SaysAccepted := by
  apply (queueInternal_run session data presentationTimeUs flags).mono
  intro log outcome run
  cases run with
  | closed _ | invalid _ => exact saysAccepted_of_silent rfl
  | stuck _ pumping failed => exact absurd (pumping_direct pumping direct) failed
  | again _ pumping index =>
      have pump := pumping.of_all (pumpIfTranscoder_run session)
      exact saysAccepted_of_silent (by simp [pump.handed, handedInput])
  | bounced _ pumping index destination answer =>
      have pump := pumping.of_all (pumpIfTranscoder_run session)
      refine saysAccepted_of_refused (by simp [pump.handed, handedInput]; rfl) (.inr ⟨rfl, ?_⟩)
      simp [HandedInput.isEos]
  | refused _ pumping index destination answer failed =>
      have pump := pumping.of_all (pumpIfTranscoder_run session)
      refine saysAccepted_of_refused (by simp [pump.handed, handedInput]; rfl) (.inl ?_)
      simp [HandedInput.accepted, failed]
  | accepted _ _ _ _ pumping index destination pumpingOn same status =>
      have pumped := (pumping.of_all (pumpIfTranscoder_run session)).sameInput.transcoder
      intro _
      rw [status]
      exact pumping_direct pumpingOn (acceptInput_transcoder.trans (pumped.trans direct))

/-- Outside a transcoder a `QUEUE` is OK exactly if the codec has accepted the data. -/
theorem dscwCodecQueue_direct (direct : session.transcoder = false) :
    (dscwCodecQueue session data presentationTimeUs flags).All SaysAccepted := by
  rw [dscwCodecQueue, Interaction.all_bind, Interaction.all_call]
  intro started
  rw [Interaction.all_bind]
  refine (queueInternal_direct direct).mono fun log result honest => ?_
  rw [Interaction.all_bind]
  intro now
  have same : ∀ input, input ∈ handedInputs ([⟨.monotonicNs, started⟩] ++ (log ++
      ([⟨.monotonicNs, now⟩] ++ []))) ↔ input ∈ handedInputs log := by
    simp [handedInput]
  split
  next again =>
    rintro ⟨input, member, taken⟩
    exact honest ⟨input, (same input).mp member, taken⟩
  next =>
    rintro ⟨input, member, taken⟩
    exact honest ⟨input, (same input).mp member, taken⟩

/-- Outside a transcoder an EOS is OK exactly if the codec has accepted it. -/
theorem dscwCodecQueueEos_direct (direct : session.transcoder = false) :
    (dscwCodecQueueEos session presentationTimeUs).All SaysAccepted := by
  apply (dscwCodecQueueEos_run session presentationTimeUs).mono
  intro log outcome run
  cases run with
  | closed started _ => exact saysAccepted_of_silent rfl
  | stuck started _ pumping failed => exact absurd (pumping_direct pumping direct) failed
  | again started now _ pumping index latency =>
      have pump := pumping.of_all (pumpIfTranscoder_run session)
      exact saysAccepted_of_silent (by simp [pump.handed, handedInput])
  | refused started now _ pumping index latency answer failed =>
      have pump := pumping.of_all (pumpIfTranscoder_run session)
      refine saysAccepted_of_refused (by simp [pump.handed, handedInput]; rfl) (.inl ?_)
      simp [HandedInput.accepted, failed]
  | accepted started now _ pumping index latency pumpingOn =>
      have pumped := (pumping.of_all (pumpIfTranscoder_run session)).sameInput.transcoder
      exact fun _ => pumping_direct pumpingOn (pumped.trans direct)

end Direct

/-! ### Failures -/

/-- What a call that has failed has done: nothing was accepted and the input side is as before; or the
session is a transcoder, its pump failed behind the accepted input, and the input side has counted it. -/
def FailureSide (session : CodecSession) (handed : HandedInput) (counted : CodecSession)
    (log : Platform.Log) (outcome : Outcome) : Prop :=
  Unconsumed session log outcome.session ∨
    session.transcoder = true ∧ outcome.status = codecErrorCodec ∧ handedInputs log = [handed] ∧
      SameInput counted outcome.session

/-- A negative status of `dscw_codec_queue` or `dscw_codec_queue_eos`: for every session, input and
platform. -/
theorem queue_failure_consumes (session : CodecSession) (data : Bytes) (presentationTimeUs : UInt64)
    (flags : UInt32) (log : Platform.Log) (outcome : Outcome) (failed : outcome.status < codecOk) :
    ((dscwCodecQueue session data presentationTimeUs flags).Runs log outcome →
      FailureSide session
        ⟨data, presentationTimeUs, flags &&& bufferFlagCodecConfig, amediaOk⟩
        (session.acceptInput data presentationTimeUs flags) log outcome) ∧
    ((dscwCodecQueueEos session presentationTimeUs).Runs log outcome →
      FailureSide session ⟨[], presentationTimeUs, bufferFlagEndOfStream, amediaOk⟩
        { session with inputEos := true, inputEosCount := session.inputEosCount + 1 } log
        outcome) := by
  have notOk : outcome.status ≠ codecOk := by
    intro ok
    rw [ok] at failed
    exact absurd failed (by decide)
  constructor
  · intro run
    rcases (run.of_all
        (dscwCodecQueue_effect session data presentationTimeUs flags)).consumes with
      ⟨unconsumed, -⟩ | ⟨status, nonempty, handed, same⟩
    · exact .inl unconsumed
    · refine .inr ⟨?_, status.resolve_left notOk, handed, same⟩
      by_contra direct
      refine notOk (run.of_all (dscwCodecQueue_direct (Bool.eq_false_iff.mpr direct)) ?_)
      exact ⟨_, by rw [handed]; exact .head _, rfl, .inl nonempty⟩
  · intro run
    rcases (run.of_all (dscwCodecQueueEos_effect session presentationTimeUs)).consumes with
      ⟨unconsumed, -⟩ | ⟨status, handed, same⟩
    · exact .inl unconsumed
    · refine .inr ⟨?_, status.resolve_left notOk, handed, same⟩
      by_contra direct
      refine notOk (run.of_all (dscwCodecQueueEos_direct (Bool.eq_false_iff.mpr direct)) ?_)
      exact ⟨_, by rw [handed]; exact .head _, rfl, .inr (by simp [HandedInput.isEos, bufferFlagEndOfStream])⟩

/-- A transcoder. -/
def surfaceTranscoder : CodecSession :=
  { transcoder := true, encoder := true, decoder := some 1, transcodeEncoder := some 2 }

/-- The decoder takes a packet, and then its output cannot be rendered. -/
def renderFails : Platform.Log :=
  [ ⟨.monotonicNs, (0 : UInt64)⟩,
    ⟨.dequeueOutputBuffer (some 1) 0, ((-1 : Int), (⟨0, 0, 0, 0⟩ : BufferInfo))⟩,
    ⟨.dequeueInputBuffer (some 1) 100000, (0 : Int)⟩,
    ⟨.getInputBuffer (some 1) 0, (some 65536 : Option Nat)⟩,
    ⟨.queueInputBuffer (some 1) 0 [1] 5 0, amediaOk⟩,
    ⟨.dequeueOutputBuffer (some 1) 0, ((0 : Int), (⟨0, 1, 0, 0⟩ : BufferInfo))⟩,
    ⟨.releaseOutputBuffer (some 1) 0 true, (-1 : MediaStatus)⟩,
    ⟨.monotonicNs, (0 : UInt64)⟩ ]

theorem transcoder_render_fails :
    ∃ outcome, (dscwCodecQueue surfaceTranscoder [1] 5 0).Runs renderFails outcome ∧
      outcome.status = codecErrorCodec ∧ outcome.session.inputRecords = 1 := by
  have replayed : ∃ outcome, (dscwCodecQueue surfaceTranscoder [1] 5 0).replay renderFails =
      some outcome ∧ outcome.status = codecErrorCodec ∧ outcome.session.inputRecords = 1 :=
    ⟨_, rfl, rfl, rfl⟩
  obtain ⟨outcome, replayed, status, count⟩ := replayed
  exact ⟨outcome, Interaction.runs_of_replay replayed, status, count⟩

theorem queue_failure_consumes_render_fails :
    ∃ outcome, (dscwCodecQueue surfaceTranscoder [1] 5 0).Runs renderFails outcome ∧
      outcome.status < codecOk ∧
      FailureSide surfaceTranscoder ⟨[1], 5, 0 &&& bufferFlagCodecConfig, amediaOk⟩
        (surfaceTranscoder.acceptInput [1] 5 0) renderFails outcome := by
  obtain ⟨outcome, run, status, -⟩ := transcoder_render_fails
  have failed : outcome.status < codecOk := by
    rw [status]
    decide
  exact ⟨outcome, run, failed,
    (queue_failure_consumes surfaceTranscoder [1] 5 0 renderFails outcome failed).1 run⟩

/-- A negative status does not say that the input was not consumed. -/
theorem failure_behind_acceptance :
    ¬∀ (session : CodecSession) (data : Bytes) (presentationTimeUs : UInt64) (flags : UInt32)
      (log : Platform.Log) (outcome : Outcome), outcome.status < codecOk →
      ((dscwCodecQueue session data presentationTimeUs flags).Runs log outcome →
        Unconsumed session log outcome.session) ∧
      ((dscwCodecQueueEos session presentationTimeUs).Runs log outcome →
        Unconsumed session log outcome.session) := by
  intro unconsumed
  obtain ⟨outcome, run, status, count⟩ := transcoder_render_fails
  have failed : outcome.status < codecOk := by
    rw [status]
    decide
  have kept := ((unconsumed surfaceTranscoder [1] 5 0 renderFails outcome failed).1 run).same
  rw [kept.inputRecords] at count
  exact absurd count (by decide)

end DawnShell
