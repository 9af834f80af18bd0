/-
Module: DawnShell.Proofs.AdapterOutput
Layer: Proofs
Purpose: The adapter reads what a pipe session has written.  It accepts every stream of output records
  whose only record with the end-of-stream flag is the last one, takes out the data, and counts the
  pictures.  The client counts them with 32 bits, so that the two counts agree as long as there are fewer
  than 2^32 pictures.
Trusted boundary: none
Main exports: unpackLoop_outputs, CountedRun, countedRun_of_run, unpack_count_iff
-/
import DawnShell.Codec.Adapter
import DawnShell.Proofs.PipeSession

namespace DawnShell

open Wire Interaction Adapter

/-! ### One record -/

section Record

variable {record rest : Bytes} {state : Unpacking}

/-- The four words of a header, as the client reads them: the adapter takes the time, the flags and the
length from the same bytes. -/
theorem parseRecordHeader_take (long : 16 ≤ record.length) :
    parseRecordHeader (record.take 16) =
      ((recordPts record).toNat, (getU32 record 8).toNat, (getU32 record 12).toNat) := by
  have word : ∀ offset, offset + 4 ≤ 16 →
      ((record.take 16).drop offset).take 4 = (record.drop offset).take 4 := by
    intro offset inside
    rw [List.drop_take, List.take_take, Nat.min_eq_left (by omega)]
  have high := word 0 (by decide)
  have low := word 4 (by decide)
  have flags := word 8 (by decide)
  have size := word 12 (by decide)
  have split : (record.drop 0).take 8 = (record.drop 0).take 4 ++ (record.drop 4).take 4 := by
    rw [show 8 = 4 + 4 from rfl, List.take_add, List.drop_drop]
  have lowLength : ((record.drop 4).take 4).length = 4 := by
    rw [List.length_take, List.length_drop]
    omega
  rw [List.drop_zero, List.drop_zero] at high
  rw [recordPts, Framing.getU64_toNat (by omega), Framing.getU32_toNat, Framing.getU32_toNat, split,
    BigEndian.decode_append, lowLength, parseRecordHeader]
  simp only [BigEndian.fields, List.drop_drop, Nat.reduceAdd, high, low, flags, size, List.drop_zero,
    Nat.reducePow]

/-- A record with its whole data, of the length that a response can have. -/
structure Complete (record : Bytes) : Prop where
  wellFormed : OutputWellFormed record
  short : record.length ≤ 8 * 1024 * 1024

/-- A complete record has its header at least. -/
theorem Complete.long (complete : Complete record) : 16 ≤ record.length := by
  rw [complete.wellFormed]
  omega

/-- The data of a complete record have the length that its header gives. -/
theorem Complete.data (complete : Complete record) :
    (recordData record).length = (getU32 record 12).toNat := by
  have length := complete.wellFormed
  rw [OutputWellFormed] at length
  rw [recordData, List.length_drop]
  omega

/-- The adapter takes one record off the stream: its header and its data are read whole, and the loop
goes on behind them unless the record is the end. -/
theorem unpackLoop_record (complete : Complete record) :
    unpackLoop state (record ++ rest) =
      match unpackRecord state (recordPts record).toNat (getU32 record 8).toNat (recordData record) with
      | .error failure => .error failure
      | .ok state => if isEosRecord record = true then .ok state else unpackLoop state rest := by
  have long := complete.long
  have data := complete.data
  have short := complete.short
  have length : (record ++ rest).length = record.length + rest.length := List.length_append
  have header : ((record ++ rest).take recordSize).length = 16 := by
    rw [List.length_take, length, recordSize]
    omega
  have front : (record ++ rest).take 16 = record.take 16 := List.take_append_of_le_length long
  have taken : ((record ++ rest).drop recordSize).take (getU32 record 12).toNat = recordData record := by
    rw [recordSize, List.drop_append_of_le_length long, ← data, recordData, List.take_left]
  have behind : ((record ++ rest).drop recordSize).drop (getU32 record 12).toNat = rest := by
    rw [recordSize, List.drop_append_of_le_length long, ← data, recordData, List.drop_left]
  have marked : (getU32 record 8).toNat &&& eosFlag ≠ 0 ↔ isEosRecord record = true := by
    rw [isEosRecord, bne_iff_ne, ne_eq, ne_eq, ← UInt32.toNat_inj, UInt32.toNat_and]
    rfl
  rw [unpackLoop, if_neg (by rw [header]; decide), dif_neg (by rw [header, recordSize]; decide),
    recordSize, front, parseRecordHeader_take long]
  dsimp only
  rw [if_neg (by rw [maxMediaPayload]; rw [recordData, List.length_drop] at data; omega),
    ← recordSize, taken, behind, if_neg (by rw [data]; simp)]
  cases unpackRecord state (recordPts record).toNat (getU32 record 8).toNat (recordData record) with
  | error failure => rfl
  | ok next => exact if_congr marked rfl rfl

/-- A record that is read: only a picture can come too early, and one that does not is counted once and
written with all its data. -/
theorem unpackRecord_of_later (complete : Complete record)
    (later : isFrameRecord record = true → state.previousPts ≤ (recordPts record).toNat) :
    ∃ next, unpackRecord state (recordPts record).toNat (getU32 record 8).toNat (recordData record) =
        .ok next ∧
      next.frames = state.frames + (if isFrameRecord record = true then 1 else 0) ∧
      next.printed = state.printed ++ recordData record ∧
      next.previousPts = (if isFrameRecord record = true then ((recordPts record).toNat : Int)
        else state.previousPts) := by
  have empty : recordData record = [] ↔ ¬ 0 < getU32 record 12 := by
    rw [← List.length_eq_zero_iff, complete.data, UInt32.lt_iff_toNat_lt]
    simp
  have config : (getU32 record 8).toNat &&& codecConfigFlag ≠ 0 ↔
      ¬ ((getU32 record 8 &&& dscbBufferFlagCodecConfig) == 0) = true := by
    rw [beq_iff_eq, ← UInt32.toNat_inj, UInt32.toNat_and]
    rfl
  have frame : isFrameRecord record = true ↔ ¬ recordData record = [] ∧
      ¬ (getU32 record 8).toNat &&& codecConfigFlag ≠ 0 := by
    rw [isFrameRecord, isFrame, Bool.and_eq_true, decide_eq_true_eq, config, empty, not_not, not_not]
  rw [unpackRecord]
  by_cases none : recordData record = []
  · have other : ¬ isFrameRecord record = true := fun picture => (frame.mp picture).1 none
    exact ⟨state, by rw [if_pos none], by simp [other], by simp [none], by simp [other]⟩
  · rw [if_neg none]
    by_cases configured : (getU32 record 8).toNat &&& codecConfigFlag ≠ 0
    · have other : ¬ isFrameRecord record = true := fun picture => (frame.mp picture).2 configured
      exact ⟨_, by rw [if_pos configured], by simp [other], rfl, by simp [other]⟩
    · have picture : isFrameRecord record = true := frame.mpr ⟨none, configured⟩
      rw [if_neg configured]
      dsimp only
      rw [if_neg (Int.not_lt.mpr (later picture))]
      exact ⟨_, rfl, by simp [picture], rfl, by simp [picture]⟩

end Record

/-! ### The stream -/

/-- No record follows one with the end-of-stream flag. -/
def EosLast (outputs : List Bytes) : Prop :=
  ∀ before record after, outputs = before ++ record :: after → isEosRecord record = true → after = []

section Stream

variable {outputs : List Bytes} {state : Unpacking}

/-- Where an end can only be the last of some records, it can only be the last of those behind the
first. -/
theorem EosLast.tail {record : Bytes} (last : EosLast (record :: outputs)) : EosLast outputs :=
  fun before other after same marked => last (record :: before) other after (by rw [same]; rfl) marked

/-- The adapter accepts the whole stream when the records are complete, an end is the last of them and
the pictures come in the order of their times; every picture is counted and all data are written. -/
theorem unpackLoop_outputs (complete : ∀ output ∈ outputs, Complete output) (last : EosLast outputs)
    (ordered : ((outputs.filter isFrameRecord).map recordPts).Pairwise (· ≤ ·))
    (later : ∀ output ∈ outputs, isFrameRecord output = true →
      state.previousPts ≤ (recordPts output).toNat) :
    ∃ final, unpackLoop state outputs.flatten = .ok final ∧
      final.frames = state.frames + outputs.countP isFrameRecord ∧
      final.printed = state.printed ++ outputs.flatMap recordData := by
  induction outputs generalizing state with
  | nil =>
      refine ⟨state, ?_, by simp, by simp⟩
      rw [unpackLoop]
      rfl
  | cons record outputs ih =>
      obtain ⟨next, read, frames, printed, previous⟩ :=
        unpackRecord_of_later (complete record (.head _)) (later record (.head _))
      rw [List.flatten_cons, unpackLoop_record (complete record (.head _)), read]
      dsimp only
      have count : (record :: outputs).countP isFrameRecord =
          (if isFrameRecord record = true then 1 else 0) + outputs.countP isFrameRecord := by
        rw [List.countP_cons, Nat.add_comm]
      by_cases marked : isEosRecord record = true
      · rw [if_pos marked]
        have alone : outputs = [] := last [] record outputs rfl marked
        subst alone
        refine ⟨next, rfl, ?_, ?_⟩
        · rw [frames, count, List.countP_nil, Nat.add_zero]
        · rw [printed, List.flatMap_singleton]
      · rw [if_neg marked]
        have rest : ((outputs.filter isFrameRecord).map recordPts).Pairwise (· ≤ ·) := by
          rw [List.filter_cons] at ordered
          split at ordered
          · exact ordered.tail
          · exact ordered
        have after : ∀ output ∈ outputs, isFrameRecord output = true →
            next.previousPts ≤ (recordPts output).toNat := by
          intro output member picture
          rw [previous]
          split
          · next here =>
            rw [List.filter_cons, if_pos here, List.map_cons, List.pairwise_cons] at ordered
            have below := ordered.1 (recordPts output)
              (List.mem_map_of_mem (List.mem_filter.mpr ⟨member, picture⟩))
            exact Int.ofNat_le.mpr (UInt64.le_iff_toNat_le.mp below)
          · exact later output (.tail _ member) picture
        obtain ⟨final, done, finalFrames, finalPrinted⟩ :=
          ih (fun output member => complete output (.tail _ member)) last.tail rest after
        refine ⟨final, done, ?_, ?_⟩
        · rw [finalFrames, frames, count, Nat.add_assoc]
        · rw [finalPrinted, printed, List.flatMap_cons, List.append_assoc]

/-- So does the command, where there is a picture at all. -/
theorem unpackAnnexB_outputs (complete : ∀ output ∈ outputs, Complete output) (last : EosLast outputs)
    (ordered : ((outputs.filter isFrameRecord).map recordPts).Pairwise (· ≤ ·))
    (some : outputs.countP isFrameRecord ≠ 0) :
    unpackAnnexB false outputs.flatten =
      .ok { frames := outputs.countP isFrameRecord, output := outputs.flatMap recordData } := by
  have early : ∀ output ∈ outputs, isFrameRecord output = true →
      ({} : Unpacking).previousPts ≤ (recordPts output).toNat :=
    fun output _ _ => Int.le_trans (by decide) (Int.natCast_nonneg _)
  obtain ⟨final, done, frames, printed⟩ := unpackLoop_outputs complete last ordered early
  rw [Nat.zero_add] at frames
  rw [List.nil_append] at printed
  rw [unpackAnnexB, done]
  dsimp only
  rw [if_neg (by rw [frames]; exact some), if_neg (by simp), frames, printed]

end Stream

/-! ### The session -/

/-- The end of `run_pipe_session` once nothing has failed. -/
def pipeFinish (session : PipeSession) (inputFrames : UInt32) (output : PipeOutputState) : Pipe Int := do
  let result ← pipeVerdict 0 inputFrames output
  let reported ← reportSessionStats session.sessionId
  Pipe.closeSession session.sessionId
  pure (if reported ≠ 0 then 1 else result)

/-- A run of `run_pipe_session` that returns 0, and `output_state.frames` at its final checks. -/
def CountedRun (fuel : Nat) (session : PipeSession) (log : PipeLog) (frames : UInt32) : Prop :=
  ∃ asking reading closing draining rest progress output,
    log = asking ++ (reading ++ (closing ++ (draining ++ rest))) ∧
    (if session.requestSyncFrame then (requestKeyframe session.sessionId).Runs asking 0
      else asking = []) ∧
    (pipeInput fuel session).Runs reading (0, progress) ∧
    (pipeEos fuel session 0 progress).Runs closing 0 ∧
    (pipeOutput fuel session 0 progress.output).Runs draining (0, output) ∧
    (pipeFinish session progress.inputFrames output).Runs rest 0 ∧
    output.frames = frames

section Session

variable {fuel : Nat} {session : PipeSession} {log : PipeLog} {frames : UInt32}

/-- In a session that returns 0 no part has failed, and the log is cut where the input ends, where the
end of the stream has been sent and where the output ends. -/
theorem runs_pipeSession_iff : (pipeSession fuel session).Runs log 0 ↔
    ∃ reading closing draining rest progress output,
      log = reading ++ (closing ++ (draining ++ rest)) ∧
      (pipeInput fuel session).Runs reading (0, progress) ∧
      (pipeEos fuel session 0 progress).Runs closing 0 ∧
      (pipeOutput fuel session 0 progress.output).Runs draining (0, output) ∧
      (pipeFinish session progress.inputFrames output).Runs rest 0 := by
  constructor
  · intro run
    obtain ⟨reading, ⟨result, progress⟩, afterInput, one, run1, rfl⟩ := run.of_bind
    obtain ⟨closing, closed, afterEos, two, run2, rfl⟩ := run1.of_bind
    obtain ⟨draining, ⟨drained, output⟩, afterOutput, three, run3, rfl⟩ := run2.of_bind
    have finish := run3
    obtain ⟨judging, verdict, afterVerdict, four, run4, rfl⟩ := run3.of_bind
    obtain ⟨asking, reported, afterStats, five, run5, rfl⟩ := run4.of_bind
    obtain ⟨ending, _, afterClose, six, run6, rfl⟩ := run5.of_bind
    obtain ⟨rfl, same⟩ := run6.of_pure
    split at same
    · exact absurd same (by decide)
    subst same
    obtain ⟨rfl, -, -⟩ := pipeVerdict_spec four
    rw [pipeOutput] at three
    split at three
    · next closedOk =>
      subst closedOk
      rw [pipeEos] at two
      split at two
      · next inputOk =>
        subst inputOk
        exact ⟨reading, closing, draining, _, progress, output, rfl, one, two, three, finish⟩
      · next failed => exact absurd two.of_pure.2.symm failed
    · next failed =>
      cases three.of_pure.2
      contradiction
  · rintro ⟨reading, closing, draining, rest, progress, output, rfl, one, two, three, finish⟩
    exact one.bind (two.bind (three.bind finish))

/-- A session that ends with 0 has counted its frames: there is one number to which the counters of both
directions have come. -/
theorem countedRun_of_run (run : (runPipeSession fuel session).Runs log 0) :
    ∃ frames, CountedRun fuel session log frames := by
  rw [runPipeSession] at run
  split at run
  · next sync =>
    obtain ⟨asking, requested, rest, one, two, rfl⟩ := run.of_bind
    split at two
    · obtain ⟨_, _, _, _, done, _⟩ := two.of_bind
      cases done.of_pure.2
    · next granted =>
      rw [not_not.mp granted] at one
      obtain ⟨reading, closing, draining, ending, progress, output, rfl, parts⟩ :=
        runs_pipeSession_iff.mp two
      exact ⟨output.frames, asking, reading, closing, draining, ending, progress, output, rfl,
        by rwa [if_pos sync], parts.1, parts.2.1, parts.2.2.1, parts.2.2.2, rfl⟩
  · next plain =>
    obtain ⟨reading, closing, draining, ending, progress, output, rfl, parts⟩ :=
      runs_pipeSession_iff.mp run
    exact ⟨output.frames, [], reading, closing, draining, ending, progress, output, rfl,
      by rw [if_neg plain], parts.1, parts.2.1, parts.2.2.1, parts.2.2.2, rfl⟩

/-- What the records of a session have in common with its counter: they are what was written to standard
output, and the counter is the number of their pictures modulo `2 ^ 32`. -/
theorem CountedRun.spec (counted : CountedRun fuel session log frames) :
    ∃ output, OutputsAgree (receivedRecords log) output ∧ output.frames = frames ∧ frames ≠ 0 ∧
      writtenOutput log = (receivedRecords log).flatten := by
  obtain ⟨asking, reading, closing, draining, rest, progress, output, rfl, sync, one, two, three,
    finish, same⟩ := counted
  have silentAsking : Effect asking [] := by
    split at sync
    · exact effect_requestKeyframe sync
    · rw [sync]
      exact effect_nil
  obtain ⟨records, inputs, outputs, -, agrees, -⟩ := pipeInput_spec one rfl
  obtain ⟨more, effect, further⟩ := delivered_awaitOutputEos agrees.outputs three rfl
  obtain ⟨judging, verdict, afterVerdict, four, run4, rfl⟩ := finish.of_bind
  obtain ⟨telling, reported, afterStats, five, run5, rfl⟩ := run4.of_bind
  obtain ⟨ending, _, afterClose, six, run6, rfl⟩ := run5.of_bind
  obtain ⟨rfl, done⟩ := run6.of_pure
  split at done
  · exact absurd done (by decide)
  subst done
  obtain ⟨-, rfl, -, some, equal⟩ := pipeVerdict_spec four
  have silent : Effect ([] ++ (telling ++ (ending ++ []))) [] :=
    (effect_reportSessionStats five).append_silent ((effect_closeSession six).append_silent effect_nil)
  have eos := effect_queueEos two rfl
  have received : receivedRecords
      (asking ++ (reading ++ (closing ++ (draining ++ ([] ++ (telling ++ (ending ++ []))))))) =
      outputs ++ more := by
    simp only [receivedRecords_append, agrees.received]
    simp only [receivedRecords, silentAsking.events, eos.events, effect.events,
      received_delivered]
    have quiet := silent.events
    simp only [List.nil_append, List.append_nil, events_append] at quiet
    have parts := List.append_eq_nil_iff.mp quiet
    simp [parts.1, parts.2, PipeEvent.received?]
  refine ⟨output, by rw [received]; exact further, same, by rw [← same, equal]; exact some, ?_⟩
  rw [received, List.flatten_append]
  simp only [writtenOutput_append, agrees.written]
  simp only [writtenOutput, silentAsking.events, eos.events, effect.events, written_delivered]
  have quiet := silent.events
  simp only [List.nil_append, List.append_nil, events_append] at quiet
  have parts := List.append_eq_nil_iff.mp quiet
  simp [parts.1, parts.2, PipeEvent.written]

/-- A record that was received fits a response, because the client refuses any payload above the limit
of 8 MiB. -/
theorem received_short : ∀ record ∈ receivedRecords log, record.length ≤ 8 * 1024 * 1024 := by
  intro record member
  obtain ⟨event, happened, same⟩ := List.mem_filterMap.mp member
  obtain ⟨⟨call, answer⟩, -, seen⟩ := List.mem_filterMap.mp happened
  cases event with
  | accepted type payload => cases same
  | wrote data => cases same
  | received payload =>
      obtain rfl : payload = record := Option.some.inj same
      cases call with
      | rpc type sessionId request =>
          cases answer with
          | none => cases type <;> cases seen
          | some response =>
              cases type with
              | output =>
                  simp only [event?] at seen
                  split at seen
                  · cases seen
                    exact response.fits
                  · cases seen
              | input =>
                  simp only [event?] at seen
                  split at seen <;> cases seen
              | eos =>
                  simp only [event?] at seen
                  split at seen <;> cases seen
              | _ => cases seen
      | _ => cases seen

/-- Whatever the client's counter says, the adapter takes out the data of all records and counts the
pictures. -/
theorem CountedRun.unpacked (counted : CountedRun fuel session log frames)
    (last : EosLast (receivedRecords log)) :
    unpackAnnexB false (writtenOutput log) =
        .ok { frames := (receivedRecords log).countP isFrameRecord
              output := (receivedRecords log).flatMap recordData } ∧
      frames = UInt32.ofNat ((receivedRecords log).countP isFrameRecord) := by
  obtain ⟨output, agrees, same, some, written⟩ := counted.spec
  have counter : frames = UInt32.ofNat ((receivedRecords log).countP isFrameRecord) :=
    same.symm.trans agrees.frames
  refine ⟨?_, counter⟩
  rw [written]
  refine unpackAnnexB_outputs (fun record member => ⟨agrees.wellFormed record member,
    received_short record member⟩) last agrees.ordered fun none => some ?_
  rw [counter, none]
  rfl

/-- The adapter reports as many pictures as the client has counted, and writes the data of all records,
exactly when the session has fewer than 2^32 pictures. -/
theorem unpack_count_iff (run : (runPipeSession fuel session).Runs log 0)
    (last : EosLast (receivedRecords log)) :
    ∃ frames, CountedRun fuel session log frames ∧
      (unpackAnnexB false (writtenOutput log) =
          .ok { frames := frames.toNat, output := (receivedRecords log).flatMap recordData } ↔
        (receivedRecords log).countP isFrameRecord < 2 ^ 32) := by
  obtain ⟨frames, counted⟩ := countedRun_of_run run
  obtain ⟨unpacked, counter⟩ := counted.unpacked last
  refine ⟨frames, counted, ?_⟩
  rw [unpacked, counter, UInt32.toNat_ofNat', Except.ok.injEq, Unpacked.mk.injEq]
  constructor
  · rintro ⟨same, -⟩
    rw [same]
    exact Nat.mod_lt _ (by decide)
  · intro few
    exact ⟨(Nat.mod_eq_of_lt few).symm, rfl⟩

end Session

theorem unpack_count_iff_one_frame :
    ∃ frames, CountedRun 3 decodeSession oneFrameLog frames ∧
      (unpackAnnexB false (writtenOutput oneFrameLog) =
          .ok { frames := frames.toNat, output := (receivedRecords oneFrameLog).flatMap recordData } ↔
        (receivedRecords oneFrameLog).countP isFrameRecord < 2 ^ 32) := by
  refine unpack_count_iff (runs_of_replay (by decide +kernel)) ?_
  intro before record after same marked
  have alone : receivedRecords oneFrameLog = [lastFrame] := by decide +kernel
  rw [alone] at same
  exact (List.append_eq_singleton_iff.mp same.symm).elim (fun found => (List.cons.inj found.2).2)
    fun found => absurd found.2 (List.cons_ne_nil _ _)

/-! ### A session of more than 2^32 pictures -/

/-- A transcoder session. -/
def transcodeSession : PipeSession := { decodeSession with requestSyncFrame := true }

/-- A picture is read. -/
def readLog : PipeLog :=
  [ ⟨.fread 16, ⟨oneFrame.take 16, oneFrame_header⟩⟩, ⟨.malloc 1, some fun _ => 0⟩,
    ⟨.fread 1, ⟨[7], seven_read⟩⟩ ]

/-- It is queued. -/
def queueLog : PipeLog :=
  [⟨.malloc 17, some fun _ => 0⟩, ⟨.rpc .input 1 oneFrame, some (emptyAnswer codecOk)⟩]

/-- This record is drained. -/
def drainLog (record : { record : Bytes // record.length = 17 }) : PipeLog :=
  [ ⟨.rpc .output 1 [0, 0, 0, 0], some ⟨codecOk, record.val, by rw [record.property]; decide⟩⟩,
    ⟨.fwrite record.val, (17 : Nat)⟩, ⟨.fflush, true⟩ ]

/-- There is no other one. -/
def idleLog : PipeLog := [⟨.rpc .output 1 [0, 0, 0, 0], some (emptyAnswer codecAgain)⟩]

/-- A picture goes in, and this record comes out. -/
def pictureLog (record : { record : Bytes // record.length = 17 }) : PipeLog :=
  readLog ++ (queueLog ++ (drainLog record ++ idleLog))

section Long

variable {fuel : Nat} {state : PipeOutputState} {payload : Bytes}

/-- A call of the client runs with the answer that it is given. -/
theorem runs_pipe (request : PipeCall) (answer : request.Answer) :
    (Pipe.call request).Runs [⟨request, answer⟩] answer :=
  runs_call request answer

/-- A request whose payload fits runs with the answer that it is given. -/
theorem runs_rpc (type : MessageType) (payload : Bytes) {answer : Option RpcAnswer}
    (short : payload.length ≤ dscwMaxPayload.toNat) :
    (rpc type 1 payload).Runs [⟨.rpc type 1 payload, answer⟩] answer := by
  rw [rpc, if_neg (Nat.not_lt.mpr short)]
  exact runs_pipe (.rpc type 1 payload) answer

/-- A record that is well formed and not too early is written. -/
theorem runs_drainOutput {record : { record : Bytes // record.length = 17 }}
    (sized : getU32 record.val 12 = 1) (later : state.previousPts ≤ getU64 record.val 0) :
    (drainOutput 1 0 state).Runs (drainLog record) (0, state.written record.val) := by
  have written : (writeOutput record.val state).Runs [⟨.fwrite record.val, (17 : Nat)⟩, ⟨.fflush, true⟩]
      (0, state.written record.val) := by
    refine (runs_pipe (.fwrite record.val) (17 : Nat)).bind ?_
    rw [if_neg (not_not.mpr record.property.symm)]
    exact (runs_pipe .fflush true).bind (.done _)
  have drained : (drainRecord record.val state).Runs
      [⟨.fwrite record.val, (17 : Nat)⟩, ⟨.fflush, true⟩] (0, state.written record.val) := by
    rw [drainRecord, if_neg (by rw [record.property]; decide),
      if_neg (by rw [record.property, sized]; decide),
      if_neg (fun early => absurd early.2.2 (UInt64.not_lt.mpr later))]
    exact written
  rw [drainOutput, show putU32 (List.replicate 4 0) 0 0 = [0, 0, 0, 0] by decide]
  exact (runs_rpc .output [0, 0, 0, 0] (by decide)).bind drained

/-- Where nothing is ready, asking for output changes nothing. -/
theorem runs_drainOutput_again :
    (drainOutput 1 0 state).Runs idleLog (1, state) := by
  rw [drainOutput, show putU32 (List.replicate 4 0) 0 0 = [0, 0, 0, 0] by decide]
  exact (runs_rpc .output [0, 0, 0, 0] (by decide)).bind (.done _)

/-- One record is drained, and the worker has no other one. -/
theorem runs_drainUntilAgain {record : { record : Bytes // record.length = 17 }}
    (sized : getU32 record.val 12 = 1) (later : state.previousPts ≤ getU64 record.val 0) :
    (drainUntilAgain (fuel + 2) 1 state).Runs (drainLog record ++ idleLog)
      (0, state.written record.val) := by
  rw [drainUntilAgain]
  refine Runs.loop_again (?_ : Runs _ _ (Iteration.again (state.written record.val)))
    (Runs.loop_leave ?_)
  · rw [← List.append_nil (drainLog record)]
    exact (runs_drainOutput sized later).bind (.done _)
  · rw [← List.append_nil idleLog]
    exact runs_drainOutput_again.bind (.done _)

/-- The record of one frame is accepted at once. -/
theorem runs_queueInput :
    (queueInput (fuel + 1) true 1 (oneFrame.take 16) [7]).Runs queueLog 0 := by
  have queued : (retryRequest (fuel + 1) .input 1 oneFrame "input").Runs
      [⟨.rpc .input 1 oneFrame, some (emptyAnswer codecOk)⟩] 0 := by
    rw [retryRequest]
    exact Runs.loop_leave ((runs_rpc .input oneFrame (by decide)).bind (.done _))
  rw [queueInput, if_neg (by decide), if_neg (by decide)]
  exact (runs_pipe (.malloc 17) (some fun _ => 0)).bind queued

/-- The record of one frame is read from standard input. -/
theorem runs_readRecord : readRecord.Runs readLog (.record (oneFrame.take 16) [7]) :=
  runs_of_replay (by rfl)

theorem runs_picture {progress : PipeProgress} (record : { record : Bytes // record.length = 17 })
    (sized : getU32 record.val 12 = 1) (later : progress.output.previousPts ≤ getU64 record.val 0) :
    (do
      match ← readRecord with
      | .failed => pure (.leave (1, progress))
      | .endOfFile => pure (.leave (0, progress))
      | .record header data => pipeRecord (fuel + 2) transcodeSession progress header data :
      Pipe (Iteration PipeProgress (Int × PipeProgress))).Runs (pictureLog record)
      (.again { lastPts := 5, inputFrames := progress.inputFrames + 1,
                output := progress.output.written record.val }) := by
  refine runs_readRecord.bind ?_
  dsimp only
  rw [pipeRecord]
  dsimp only
  rw [if_neg (by decide), if_pos (by decide), codecInput, if_neg (by decide)]
  have input : (pure (some [7]) : Pipe (Option Bytes)).Runs [] (some [7]) := .done _
  refine input.bind (runs_queueInput.bind ?_)
  rw [if_neg (by decide), ← List.append_nil (drainLog record ++ idleLog)]
  exact (runs_drainUntilAgain sized later).bind (.done _)

/-- The end of standard input. -/
def endLog : PipeLog := [⟨.fread 16, ⟨[], nothing_read⟩⟩, ⟨.ferror, false⟩]

/-- What follows the input loop. -/
def finishLog : PipeLog :=
  [ ⟨.rpc .sessionStats 1 [], some (emptyAnswer codecOk)⟩,
    ⟨.stderr (textBytes "dawnshell-codec: session-stats=\n"), ()⟩,
    ⟨.rpc .close 1 [], some (emptyAnswer codecOk)⟩ ]

/-- This many pictures, and one that is marked as the last. -/
def picturesLog (count : Nat) : PipeLog :=
  (List.replicate count (pictureLog ⟨oneFrame, rfl⟩)).flatten ++ (pictureLog ⟨lastFrame, rfl⟩ ++ endLog)

/-- A whole session. -/
def longLog (count : Nat) : PipeLog :=
  [⟨.rpc .requestKeyframe 1 [], some (emptyAnswer codecOk)⟩] ++ (picturesLog count ++
    ([⟨.rpc .eos 1 [0, 0, 0, 0, 0, 0, 0, 5], some (emptyAnswer codecOk)⟩] ++ ([] ++ finishLog)))

/-- The counters of both directions go up by one for each picture. The induction is on the number of
pictures, each of which takes one turn of the loop. -/
theorem runs_pictures (fuel count : Nat) (progress : PipeProgress)
    (later : progress.output.previousPts ≤ 5) :
    ∃ final : PipeProgress,
      (Interaction.loop Pipe.exhausted (fun progress => do
        match ← readRecord with
        | .failed => pure (.leave (1, progress))
        | .endOfFile => pure (.leave (0, progress))
        | .record header data => pipeRecord (fuel + 2) transcodeSession progress header data)
        (count + 2) progress : Pipe (Int × PipeProgress)).Runs (picturesLog count) (0, final) ∧
      final.inputFrames = progress.inputFrames + UInt32.ofNat (count + 1) ∧
      final.output.frames = progress.output.frames + UInt32.ofNat (count + 1) ∧
      final.output.sawEos = true ∧ final.lastPts = 5 := by
  have counted : ∀ (record : { record : Bytes // record.length = 17 }) (state : PipeOutputState),
      isFrameRecord record.val = true → (state.written record.val).frames = state.frames + 1 ∧
        (state.written record.val).previousPts = recordPts record.val :=
    fun record state picture => ⟨(written_of_frame state picture).1, (written_of_frame state picture).2.1⟩
  induction count generalizing progress with
  | zero =>
      obtain ⟨frames, -⟩ := counted ⟨lastFrame, rfl⟩ progress.output (by decide)
      have ended : readRecord.Runs endLog .endOfFile := runs_of_replay (by rfl)
      refine ⟨{ lastPts := 5, inputFrames := progress.inputFrames + 1,
                output := progress.output.written lastFrame }, ?_, rfl, frames, ?_, rfl⟩
      · rw [picturesLog, List.replicate_zero, List.flatten_nil, List.nil_append]
        refine Runs.loop_again (runs_picture ⟨lastFrame, rfl⟩ (by decide) later)
          (Runs.loop_leave ?_)
        rw [← List.append_nil endLog]
        exact ended.bind (.done _)
      · rw [written_sawEos, show isEosRecord lastFrame = true by decide, Bool.or_true]
  | succ count ih =>
      obtain ⟨frames, previous⟩ := counted ⟨oneFrame, rfl⟩ progress.output (by decide)
      obtain ⟨final, others, inputs, outputs, eos, last⟩ := ih
        { lastPts := 5, inputFrames := progress.inputFrames + 1,
          output := progress.output.written oneFrame } (by rw [previous]; decide)
      have more : (1 : UInt32) + UInt32.ofNat (count + 1) = UInt32.ofNat (count + 1 + 1) := by
        rw [UInt32.ofNat_add (count + 1), UInt32.add_comm]
        rfl
      refine ⟨final, ?_, ?_, ?_, eos, last⟩
      · rw [picturesLog, List.replicate_succ, List.flatten_cons, List.append_assoc]
        exact Runs.loop_again (runs_picture ⟨oneFrame, rfl⟩ (by decide) later) others
      · rw [inputs, UInt32.add_assoc, more]
      · rw [outputs, frames, UInt32.add_assoc, more]

/-- The session returns 0 unless both counters are back at zero, which happens for a multiple of `2 ^
32` pictures. -/
theorem runs_long (count : Nat) (counts : UInt32.ofNat (count + 1) ≠ 0) :
    (runPipeSession (count + 2) transcodeSession).Runs (longLog count) 0 := by
  obtain ⟨final, input, inputs, outputs, eos, last⟩ :=
    runs_pictures count count {} (by decide)
  rw [UInt32.zero_add] at inputs outputs
  have closing : (pipeEos (count + 2) transcodeSession 0 final).Runs
      [⟨.rpc .eos 1 [0, 0, 0, 0, 0, 0, 0, 5], some (emptyAnswer codecOk)⟩] 0 := by
    rw [pipeEos, if_pos rfl, last, queueEos, retryRequest]
    exact Runs.loop_leave ((runs_rpc .eos [0, 0, 0, 0, 0, 0, 0, 5] (by decide)).bind (.done _))
  have draining : (pipeOutput (count + 2) transcodeSession 0 final.output).Runs [] (0, final.output) := by
    rw [pipeOutput, if_pos rfl, awaitOutputEos]
    refine Runs.loop_leave ?_
    rw [if_neg (by simp [eos])]
    exact .done _
  have finish : (pipeFinish transcodeSession final.inputFrames final.output).Runs finishLog 0 := by
    have verdict : pipeVerdict 0 final.inputFrames final.output = pure 0 := by
      rw [pipeVerdict, if_pos rfl, if_neg (by simp [eos]), if_neg]
      rw [inputs, outputs]
      exact not_or.mpr ⟨counts, not_not.mpr rfl⟩
    rw [pipeFinish, verdict]
    exact runs_of_replay (by rfl)
  have session : (pipeSession (count + 2) transcodeSession).Runs _ 0 :=
    runs_pipeSession_iff.mpr ⟨_, _, _, _, final, final.output, rfl, input, closing, draining, finish⟩
  have asked : (requestKeyframe 1).Runs [⟨.rpc .requestKeyframe 1 [], some (emptyAnswer codecOk)⟩]
      0 := runs_of_replay (by rfl)
  rw [runPipeSession, if_pos (show transcodeSession.requestSyncFrame = true from rfl)]
  refine asked.bind ?_
  rw [if_neg (by decide)]
  exact session

/-- Along the long log the same frame is received many times, and the last one at the end. -/
theorem receivedRecords_long (count : Nat) :
    receivedRecords (longLog count) = List.replicate count oneFrame ++ [lastFrame] := by
  have middle : receivedRecords (pictureLog ⟨oneFrame, rfl⟩) = [oneFrame] := by decide +kernel
  have marked : receivedRecords (pictureLog ⟨lastFrame, rfl⟩) = [lastFrame] := by decide +kernel
  have many : receivedRecords (List.replicate count (pictureLog ⟨oneFrame, rfl⟩)).flatten =
      List.replicate count oneFrame := by
    induction count with
    | zero => rfl
    | succ count ih =>
        rw [List.replicate_succ, List.flatten_cons, receivedRecords_append, middle, ih]
        rfl
  have ended : receivedRecords endLog = [] := by decide +kernel
  have rest : receivedRecords ([⟨.rpc .eos 1 [0, 0, 0, 0, 0, 0, 0, 5], some (emptyAnswer codecOk)⟩] ++
      ([] ++ finishLog)) = [] := by decide +kernel
  have asked : receivedRecords [⟨.rpc .requestKeyframe 1 [], some (emptyAnswer codecOk)⟩] = [] := by
    decide +kernel
  rw [longLog, picturesLog, receivedRecords_append, receivedRecords_append, asked, rest,
    receivedRecords_append, receivedRecords_append, many, marked, ended]
  simp

end Long

/-- After 2^32 + 1 pictures the client has counted one, because its counters have 32 bits, and the
adapter reports all of them. -/
theorem unpack_count_wrong :
    ¬ ∀ (fuel : Nat) (session : PipeSession) (log : PipeLog), (runPipeSession fuel session).Runs log 0 →
      EosLast (receivedRecords log) → ∃ frames, CountedRun fuel session log frames ∧
        unpackAnnexB false (writtenOutput log) =
          .ok { frames := frames.toNat, output := (receivedRecords log).flatMap recordData } := by
  intro agrees
  have last : EosLast (receivedRecords (longLog (2 ^ 32))) := by
    rw [receivedRecords_long]
    intro before record after same marked
    rcases List.append_eq_append_iff.mp same with ⟨middle, left, right⟩ | ⟨middle, left, right⟩
    · cases middle with
      | nil => exact (List.cons.inj right).2.symm
      | cons first middle => exact absurd (List.cons.inj right).2.symm (by simp)
    · -- A record in front of the last one is not marked.
      cases middle with
      | nil => exact (List.cons.inj right).2
      | cons first middle =>
          have inside : record ∈ List.replicate (2 ^ 32) oneFrame := by
            rw [left, (List.cons.inj right).1]
            simp
          rw [List.eq_of_mem_replicate inside] at marked
          exact absurd marked (by decide)
  obtain ⟨frames, counted, same⟩ := agrees _ _ _ (runs_long (2 ^ 32) (by decide)) last
  obtain ⟨unpacked, counter⟩ := counted.unpacked last
  rw [unpacked, Except.ok.injEq, Unpacked.mk.injEq, counter] at same
  have count : (receivedRecords (longLog (2 ^ 32))).countP isFrameRecord = 2 ^ 32 + 1 := by
    rw [receivedRecords_long, List.countP_append, List.countP_replicate, if_pos (by decide)]
    rfl
  rw [count] at same
  exact absurd same.1 (by decide)

end DawnShell
