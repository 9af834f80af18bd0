/-
Module: DawnShell.Proofs.PipeConsumption
Layer: Proofs
Purpose: What becomes of the data a pipe session reads.  A session that returns 0 has handed over the
  data of every record it took off standard input, and counted its pictures, exactly when the record
  with the end-of-stream flag brought no data along.
Trusted boundary: none
Main exports: wholeRecords, QuietEnd, NothingDropped, pipe_data_handed_over_iff
-/
import DawnShell.Proofs.PipeSession

namespace DawnShell

open Wire Interaction

/-! ### Records on a stream -/

/-- The first record of a stream and what is behind it; `none` when the stream is too short for one. -/
def nextRecord (stream : Bytes) : Option (PipeRecord × Bytes) :=
  if headed : (stream.take 16).length = 16 then
    let length := (getU32 (stream.take 16) 12).toNat
    let rest := stream.drop 16
    if whole : (rest.take length).length = length then
      some (⟨stream.take 16, rest.take length, headed, whole⟩, rest.drop length)
    else none
  else none

/-- A record that is written is read back as the next one. -/
theorem nextRecord_bytes (record : PipeRecord) (rest : Bytes) :
    nextRecord (record.bytes ++ rest) = some (record, rest) := by
  obtain ⟨header, data, headed, whole⟩ := record
  have front : (header ++ data ++ rest).take 16 = header := by
    rw [List.append_assoc, List.take_left' headed]
  have back : (header ++ data ++ rest).drop 16 = data ++ rest := by
    rw [List.append_assoc, List.drop_left' headed]
  simp only [nextRecord, PipeRecord.bytes, front, back, headed, ← whole, List.take_left,
    List.drop_left, dif_pos]

/-- Reading a record leaves less of the stream. -/
theorem length_of_nextRecord {stream rest : Bytes} {record : PipeRecord}
    (found : nextRecord stream = some (record, rest)) : rest.length < stream.length := by
  rw [nextRecord] at found
  split at found
  next headed =>
    dsimp only at found
    split at found
    · obtain ⟨-, rfl⟩ := Prod.mk.inj (Option.some.inj found)
      rw [List.length_take] at headed
      rw [List.length_drop, List.length_drop]
      omega
    · cases found
  · cases found

/-- The whole records at the front of a stream. -/
def wholeRecords (stream : Bytes) : List PipeRecord :=
  match _found : nextRecord stream with
  | none => []
  | some (record, rest) => record :: wholeRecords rest
termination_by stream.length
decreasing_by exact length_of_nextRecord (by assumption)

/-- Whole records in front of a stream are its first ones. -/
theorem wholeRecords_append (records : List PipeRecord) (rest : Bytes) :
    wholeRecords (records.flatMap PipeRecord.bytes ++ rest) = records ++ wholeRecords rest := by
  induction records with
  | nil => rfl
  | cons record records ih =>
      rw [List.flatMap_cons, List.append_assoc, wholeRecords]
      split
      next missing => rw [nextRecord_bytes] at missing; contradiction
      next found =>
        rw [nextRecord_bytes] at found
        obtain ⟨rfl, rfl⟩ := Prod.mk.inj (Option.some.inj found)
        rw [ih, List.cons_append]

/-- A stream of whole records can be read in one way only. -/
theorem records_unique {records others : List PipeRecord}
    (same : records.flatMap PipeRecord.bytes = others.flatMap PipeRecord.bytes) :
    records = others := by
  have one := wholeRecords_append records []
  have two := wholeRecords_append others []
  rw [same] at one
  exact List.append_cancel_right (one.symm.trans two)

/-! ### Sizes -/

section Sizes

variable {session : PipeSession} {record : PipeRecord} {data input payload : Bytes}

def PipeRecord.hasData (record : PipeRecord) : Bool := !record.data.isEmpty

theorem hasData_of_isFrame (frame : record.isFrame = true) : record.hasData = true := by
  rw [PipeRecord.isFrame, isFrameRecord, isFrame, Bool.and_eq_true, decide_eq_true_iff,
    UInt32.lt_iff_toNat_lt, ← record.data_length] at frame
  simpa [PipeRecord.hasData, ← List.length_pos_iff] using frame.1

/-- Interleaving changes the order of the chroma and not the size of the frame. -/
theorem length_interleaveChroma (ySize chromaSize : Nat) (i420 converted : Bytes) :
    (interleaveChroma ySize chromaSize i420 converted).length = converted.length := by
  rw [interleaveChroma]
  generalize List.range chromaSize = indices
  induction indices generalizing converted with
  | nil => rfl
  | cons index indices ih => rw [List.foldl_cons, ih, List.length_set, List.length_set]

/-- What is queued for a record is as long as its data. -/
theorem CodecInput.length (codec : CodecInput session data input) : input.length = data.length := by
  rw [CodecInput] at codec
  split at codec
  · obtain ⟨-, block, converted⟩ := codec
    rw [convertI420ForEncoder] at converted
    split at converted
    · cases converted
      simp only [length_interleaveChroma, overwrite, List.take_zero, List.nil_append,
        List.length_append, List.length_drop, List.length_take, Memory.length_load]
      omega
    · split at converted
      · cases converted
      · cases converted
        rfl
  · rw [codec]

/-- What is sent for a record is its header and as many bytes as it has data. -/
theorem Queued.length (queued : Queued session record payload) :
    payload.length = 16 + record.data.length := by
  obtain ⟨input, codec, rfl⟩ := queued
  rw [List.length_append, record.header_length, codec.length]

/-- A payload is longer than a header exactly if its record has data. -/
theorem Queued.carries (queued : Queued session record payload) :
    (16 < payload.length) ↔ record.hasData = true := by
  rw [queued.length, PipeRecord.hasData, Bool.not_eq_true', List.isEmpty_eq_false_iff,
    ← List.length_pos_iff]
  omega

end Sizes

/-! ### Handing over -/

/-- The payloads of the input requests that were answered with OK, in order. -/
def acceptedInputs (log : PipeLog) : List Bytes :=
  (acceptedRequests log).filterMap fun
    | (.input, payload) => some payload
    | _ => none

/-- Of the records a session took off standard input, those with data were accepted by the worker, each
once and in order, and the pictures among them are what `input_frames` counts in its 32 bits. -/
structure NothingDropped (session : PipeSession) (consumed : List PipeRecord) (inputFrames : UInt32)
    (log : PipeLog) : Prop where
  accepted : List.SublistForall₂ (Queued session) (consumed.filter PipeRecord.hasData)
    (acceptedInputs log)
  counted : inputFrames = UInt32.ofNat (consumed.countP PipeRecord.isFrame)

/-- The first record with the end-of-stream flag, if there is one, brings no data along. -/
def QuietEnd (stdin : Bytes) : Bool :=
  ((wholeRecords stdin).find? PipeRecord.isEos).all fun last => !last.hasData

section Relations

variable {α β : Type} {R : α → β → Prop} {p : α → Bool} {q : β → Bool} {xs : List α} {ys : List β}

/-- Of two lists that are related in pairs, what is filtered out of the first is related to a sublist of
the second. -/
theorem sublistForall₂_filter (related : List.Forall₂ R xs ys) :
    List.SublistForall₂ R (xs.filter p) ys := by
  induction related with
  | nil => exact .nil
  | @cons x y xs ys here _ ih =>
      cases keep : p x with
      | true => simpa [List.filter_cons, keep] using .cons here ih
      | false => simpa [List.filter_cons, keep] using .cons_right ih

/-- Related to a sublist, so not longer than what can be related at all. -/
theorem length_le_countP_of_sublistForall₂ (related : List.SublistForall₂ R xs ys)
    (fits : ∀ x ∈ xs, ∀ y, R x y → q y = true) : xs.length ≤ ys.countP q := by
  induction related with
  | nil => exact Nat.zero_le _
  | @cons x y xs ys here _ ih =>
      rw [List.countP_cons_of_pos (fits x List.mem_cons_self y here), List.length_cons]
      exact Nat.succ_le_succ (ih fun x member => fits x (List.mem_cons_of_mem _ member))
  | @cons_right y xs ys _ ih =>
      exact (ih fits).trans (List.sublist_cons_self y ys).countP_le

end Relations

section Session

variable {session : PipeSession} {fuel : Nat} {log : PipeLog} {records : List PipeRecord}
  {inputs : List Bytes} {inputFrames : UInt32} {before after : Stdin} {last : Option PipeRecord}

/-- The requests that a session has got accepted are those of its contract. -/
theorem acceptedInputs_of_contract {stdin : Bytes}
    (contract : PipeContract session stdin log records inputs) : acceptedInputs log = inputs := by
  obtain ⟨pts, accepted⟩ := contract.accepted
  have taken : ∀ inputs : List Bytes, (inputs.map fun input => (MessageType.input, input)).filterMap
      (fun | (.input, payload) => some payload | _ => none) = inputs := by
    intro inputs
    induction inputs with
    | nil => rfl
    | cons input inputs ih => exact congrArg (input :: ·) ih
  rw [acceptedInputs, accepted, List.filterMap_append, taken]
  exact List.append_nil inputs

/-- As many of the payloads carry data as of the records. -/
theorem countP_of_queued (queued : List.Forall₂ (Queued session) records inputs) :
    inputs.countP (fun payload => decide (16 < payload.length)) =
      (records.filter PipeRecord.hasData).length := by
  induction queued with
  | nil => rfl
  | @cons record payload records inputs here _ ih =>
      rw [List.countP_cons, ih, List.filter_cons]
      cases carries : record.hasData with
      | true => simp [here.carries.mpr carries]
      | false =>
          have short : ¬16 < payload.length := fun long =>
            Bool.false_ne_true (carries.symm.trans (here.carries.mp long))
          simp [short]

theorem find_eos (unmarked : ∀ record ∈ records, record.isEos = false)
    (taken : SessionTaken before after records last inputFrames) :
    (wholeRecords before.remaining).find? PipeRecord.isEos = last := by
  rw [taken.taken, wholeRecords_append, List.append_assoc, List.find?_append,
    List.find?_eq_none.mpr fun record member => by simp [unmarked record member], Option.none_or]
  cases last with
  | none =>
      rw [taken.ended rfl]
      simp [wholeRecords, nextRecord]
  | some last => simp [taken.marked last rfl]

/-- Nothing of what was taken is dropped exactly if the record that ended the input, if there was one,
has no data. -/
theorem nothingDropped_iff {stdin : Bytes}
    (contract : PipeContract session stdin log records inputs)
    (taken : SessionTaken before after records last inputFrames) :
    NothingDropped session (records ++ last.toList) inputFrames log ↔
      last.all (fun last => !last.hasData) = true := by
  have accepted := acceptedInputs_of_contract contract
  cases last with
  | none =>
      simp only [Option.toList_none, List.append_nil, Option.all_none, iff_true]
      exact ⟨accepted ▸ sublistForall₂_filter contract.queued, taken.counted⟩
  | some last =>
      simp only [Option.toList_some, Option.all_some, Bool.not_eq_true']
      constructor
      · intro handed
        -- The worker has accepted as many payloads with data as there are records in front of the last.
        have most := length_le_countP_of_sublistForall₂ (accepted ▸ handed.accepted)
          fun record member payload queued =>
            decide_eq_true (queued.carries.mpr (List.mem_filter.mp member).2)
        rw [countP_of_queued contract.queued, List.filter_append, List.length_append] at most
        cases carries : last.hasData with
        | false => rfl
        | true => simp [carries] at most
      · intro empty
        constructor
        · rw [accepted, List.filter_append]
          simpa [empty] using sublistForall₂_filter contract.queued
        · rw [taken.counted, List.countP_append]
          have picture : last.isFrame = false :=
            Bool.eq_false_iff.mpr fun frame => absurd (hasData_of_isFrame frame) (by simp [empty])
          simp [picture]

end Session

/-- For every standard input, every behaviour of the worker and every allocation and write failure: a
session that returns 0 has taken whole records off standard input, and none of their data was dropped
exactly when the first of them that is marked as the end of the stream is empty. -/
theorem pipe_data_handed_over_iff {fuel : Nat} {session : PipeSession} {log : PipeLog}
    {stdin : Bytes} {error : Bool} {after : Stdin} (run : (runPipeSession fuel session).Runs log 0)
    (serves : Stdin.Serves ⟨stdin, error⟩ log after) :
    ∃ inputFrames, (runPipeSessionCounting fuel session).Runs log (0, inputFrames) ∧
      (∃ consumed : List PipeRecord, stdin = consumed.flatMap PipeRecord.bytes ++ after.remaining) ∧
      ∀ consumed, stdin = consumed.flatMap PipeRecord.bytes ++ after.remaining →
        (NothingDropped session consumed inputFrames log ↔ QuietEnd stdin = true) := by
  rw [runPipeSession_eq, runs_map] at run
  obtain ⟨⟨_, inputFrames⟩, counting, rfl⟩ := run
  obtain ⟨records, inputs, last, contract, taken⟩ := runPipeSessionCounting_spec counting serves
  refine ⟨inputFrames, counting, ⟨_, taken.taken⟩, fun consumed whole => ?_⟩
  obtain rfl : consumed = records ++ last.toList :=
    records_unique (List.append_cancel_right (whole.symm.trans taken.taken))
  have ends := find_eos contract.unmarked taken
  rw [nothingDropped_iff contract taken, QuietEnd, ends]

/-- The one-picture session again, with another marked record behind the picture: its byte is read and
goes nowhere. -/
def markedFrameLog : PipeLog :=
  [ ⟨.fread 16, ⟨oneFrame.take 16, oneFrame_header⟩⟩, ⟨.malloc 1, some fun _ => 0⟩,
    ⟨.fread 1, ⟨[7], seven_read⟩⟩, ⟨.malloc 17, some fun _ => 0⟩,
    ⟨.rpc .input 1 oneFrame, some (emptyAnswer codecOk)⟩,
    ⟨.rpc .output 1 [0, 0, 0, 0], some ⟨codecOk, lastFrame, lastFrame_fits⟩⟩,
    ⟨.fwrite lastFrame, (17 : Nat)⟩, ⟨.fflush, true⟩,
    ⟨.rpc .output 1 [0, 0, 0, 0], some (emptyAnswer codecAgain)⟩,
    ⟨.fread 16, ⟨lastFrame.take 16, lastFrame_header⟩⟩, ⟨.malloc 1, some fun _ => 0⟩,
    ⟨.fread 1, ⟨[9], by decide⟩⟩,
    ⟨.rpc .eos 1 [0, 0, 0, 0, 0, 0, 0, 5], some (emptyAnswer codecOk)⟩,
    ⟨.rpc .sessionStats 1 [], some (emptyAnswer codecOk)⟩,
    ⟨.stderr (textBytes "dawnshell-codec: session-stats=\n"), ()⟩,
    ⟨.rpc .close 1 [], some (emptyAnswer codecOk)⟩ ]

/-- A session over one frame that is marked as the end runs along this log. -/
theorem runs_markedFrameLog : (runPipeSession 3 decodeSession).Runs markedFrameLog 0 :=
  runs_of_replay (by decide +kernel)

/-- Standard input with that frame serves the reads of the log. -/
theorem serves_markedFrameLog :
    Stdin.Serves ⟨oneFrame ++ lastFrame, false⟩ markedFrameLog ⟨[], false⟩ := by
  refine ⟨⟨[7] ++ lastFrame, false⟩, ⟨rfl, by decide, id⟩, _, rfl, ⟨lastFrame, false⟩,
    ⟨rfl, by decide, id⟩, ?_⟩
  refine ⟨_, rfl, _, rfl, _, rfl, _, rfl, _, rfl, _, rfl, ?_⟩
  refine ⟨⟨[9], false⟩, ⟨rfl, by decide, id⟩, _, rfl, ⟨[], false⟩, ⟨rfl, by decide, id⟩, ?_⟩
  exact ⟨_, rfl, _, rfl, _, rfl, _, rfl, rfl⟩

def oneFrameRecord : PipeRecord := ⟨oneFrame.take 16, [7], rfl, rfl⟩

def lastFrameRecord : PipeRecord := ⟨lastFrame.take 16, [9], rfl, rfl⟩

/-- A session that returns 0 although the data of its last record went nowhere. -/
theorem marked_data_dropped :
    (runPipeSession 3 decodeSession).Runs markedFrameLog 0 ∧
      Stdin.Serves ⟨oneFrame ++ lastFrame, false⟩ markedFrameLog ⟨[], false⟩ ∧
      oneFrame ++ lastFrame = [oneFrameRecord, lastFrameRecord].flatMap PipeRecord.bytes ∧
      (runPipeSessionCounting 3 decodeSession).Runs markedFrameLog (0, 1) ∧
      ¬NothingDropped decodeSession [oneFrameRecord, lastFrameRecord] 1 markedFrameLog := by
  refine ⟨runs_markedFrameLog, serves_markedFrameLog, rfl, runs_of_replay (by decide +kernel),
    fun handed => ?_⟩
  -- Two records brought data, and one payload was accepted.
  have accepted : acceptedInputs markedFrameLog = [oneFrame] := by decide +kernel
  have most := length_le_countP_of_sublistForall₂ handed.accepted
    fun record member payload queued => (rfl : (fun _ => true) payload = true)
  rw [accepted] at most
  exact absurd most (by decide)

/-- The session of one picture drops nothing. -/
theorem pipe_data_handed_over_iff_one_frame :
    (runPipeSession 3 decodeSession).Runs oneFrameLog 0 ∧
      Stdin.Serves ⟨oneFrame, false⟩ oneFrameLog ⟨[], false⟩ ∧
      ∃ inputFrames, (runPipeSessionCounting 3 decodeSession).Runs oneFrameLog (0, inputFrames) ∧
        (∃ consumed : List PipeRecord, oneFrame = consumed.flatMap PipeRecord.bytes ++ []) ∧
        ∀ consumed, oneFrame = consumed.flatMap PipeRecord.bytes ++ [] →
          (NothingDropped decodeSession consumed inputFrames oneFrameLog ↔
            QuietEnd oneFrame = true) :=
  ⟨runs_oneFrameLog, serves_oneFrameLog,
    pipe_data_handed_over_iff runs_oneFrameLog serves_oneFrameLog⟩

end DawnShell
