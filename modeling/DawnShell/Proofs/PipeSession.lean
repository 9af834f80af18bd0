/-
Module: DawnShell.Proofs.PipeSession
Layer: Proofs
Purpose: The contract of a pipe session.  Whatever standard input holds and however the worker answers,
  a session that returns 0 has handed over every record before the end of the stream exactly once and in
  order, has closed the input with one end-of-stream request, and has copied exactly the output records
  it received, in order of time and as many pictures as went in.
Trusted boundary: none
Main exports: PipeRecord, OutputsAgree, PipeAgrees, pipe_session_contract
-/
import Mathlib.Data.List.Forall2
import DawnShell.Proofs.PipeEffects

namespace DawnShell

open Wire Interaction

/-! ### What a log shows -/

def PipeEvent.accepted? : PipeEvent → Option (MessageType × Bytes)
  | .accepted type payload => some (type, payload)
  | _ => none

def PipeEvent.received? : PipeEvent → Option Bytes
  | .received payload => some payload
  | _ => none

def PipeEvent.written : PipeEvent → Bytes
  | .wrote data => data
  | _ => []

/-- The input and end-of-stream requests that were answered with OK, in order. -/
def acceptedRequests (log : PipeLog) : List (MessageType × Bytes) :=
  (events log).filterMap PipeEvent.accepted?

/-- The records of the output requests that were answered with OK, in order. -/
def receivedRecords (log : PipeLog) : List Bytes := (events log).filterMap PipeEvent.received?

/-- The bytes that went to standard output. -/
def writtenOutput (log : PipeLog) : Bytes := (events log).flatMap PipeEvent.written

section Append

variable {first second : PipeLog}

/-- The requests that were accepted along two logs are those of the first and then those of the second.
-/
theorem acceptedRequests_append :
    acceptedRequests (first ++ second) = acceptedRequests first ++ acceptedRequests second := by
  rw [acceptedRequests, events_append, List.filterMap_append]
  rfl

/-- The records that were received along two logs are those of the first and then those of the second.
-/
theorem receivedRecords_append :
    receivedRecords (first ++ second) = receivedRecords first ++ receivedRecords second := by
  rw [receivedRecords, events_append, List.filterMap_append]
  rfl

/-- What was written along two logs is what was written along the first and then along the second. -/
theorem writtenOutput_append :
    writtenOutput (first ++ second) = writtenOutput first ++ writtenOutput second := by
  rw [writtenOutput, events_append, List.flatMap_append]
  rfl

end Append

/-- Records that were received and written one after the other. -/
def delivered (outputs : List Bytes) : List PipeEvent :=
  outputs.flatMap fun payload => [.received payload, .wrote payload]

section Delivered

variable {outputs more : List Bytes}

/-- Records that are delivered one after another make the events of the first and then those of the
others. -/
@[simp] theorem delivered_append : delivered (outputs ++ more) = delivered outputs ++ delivered more :=
  List.flatMap_append

/-- Delivering records makes no request that the worker accepts. -/
@[simp] theorem accepted_delivered : (delivered outputs).filterMap PipeEvent.accepted? = [] := by
  induction outputs with
  | nil => rfl
  | cons payload outputs ih => exact ih

/-- Each delivered record was received once, in this order. -/
@[simp] theorem received_delivered :
    (delivered outputs).filterMap PipeEvent.received? = outputs := by
  induction outputs with
  | nil => rfl
  | cons payload outputs ih => exact congrArg (payload :: ·) ih

/-- What is written for delivered records is these records, without anything between them. -/
@[simp] theorem written_delivered :
    (delivered outputs).flatMap PipeEvent.written = outputs.flatten := by
  induction outputs with
  | nil => rfl
  | cons payload outputs ih => exact congrArg (payload ++ ·) ih

end Delivered

/-! ### Output -/

/-- The presentation time of a record. -/
def recordPts (record : Bytes) : UInt64 := getU64 record 0

/-- A record that carries a picture. -/
def isFrameRecord (record : Bytes) : Bool := isFrame (getU32 record 8) (getU32 record 12)

/-- A record with the end-of-stream flag. -/
def isEosRecord (record : Bytes) : Bool := (getU32 record 8 &&& dscbBufferFlagEos) != 0

/-- `struct pipe_output_state` describes the records received so far. -/
structure OutputsAgree (outputs : List Bytes) (state : PipeOutputState) : Prop where
  wellFormed : ∀ output ∈ outputs, OutputWellFormed output
  frames : state.frames = UInt32.ofNat (outputs.countP isFrameRecord)
  ordered : ((outputs.filter isFrameRecord).map recordPts).Pairwise (· ≤ ·)
  last : ∀ output ∈ outputs, isFrameRecord output = true →
    state.havePts = true ∧ recordPts output ≤ state.previousPts
  eos : state.sawEos = true → ∃ output ∈ outputs, isEosRecord output = true

/-- Before the first record the state of the output has nothing to agree with. -/
theorem outputsAgree_initial : OutputsAgree [] {} := by
  constructor <;> simp

section Output

variable {outputs : List Bytes} {payload : Bytes} {state next : PipeOutputState} {fuel : Nat}
  {sessionId : UInt64} {log : PipeLog} {result : Int}

/-- A record with a frame counts as one, and its time becomes the one that the next must not be below.
-/
theorem written_of_frame (state : PipeOutputState) (frame : isFrameRecord payload = true) :
    (state.written payload).frames = state.frames + 1 ∧
      (state.written payload).previousPts = recordPts payload ∧
      (state.written payload).havePts = true := by
  rw [isFrameRecord] at frame
  simp only [PipeOutputState.written, frame, if_true]
  split <;> exact ⟨rfl, rfl, rfl⟩

/-- A record without a frame changes neither the count nor the last time. -/
theorem written_of_not_frame (state : PipeOutputState) (other : isFrameRecord payload = false) :
    (state.written payload).frames = state.frames ∧
      (state.written payload).previousPts = state.previousPts ∧
      (state.written payload).havePts = state.havePts := by
  rw [isFrameRecord] at other
  simp only [PipeOutputState.written, other, Bool.false_eq_true, if_false]
  split <;> exact ⟨rfl, rfl, rfl⟩

/-- The end of the output is seen with the first record that is marked so, and stays seen. -/
theorem written_sawEos :
    (state.written payload).sawEos = (state.sawEos || isEosRecord payload) := by
  rw [PipeOutputState.written, isEosRecord]
  split
  next marked => simp [marked]
  next unmarked =>
    rw [not_not] at unmarked
    split <;> simp [unmarked]

/-- One more well-formed record in its order keeps the state of the output in agreement with all records
so far. -/
theorem OutputsAgree.written (agrees : OutputsAgree outputs state)
    (wellFormed : OutputWellFormed payload)
    (ordered : isFrameRecord payload = true → state.havePts = true →
      state.previousPts ≤ recordPts payload) :
    OutputsAgree (outputs ++ [payload]) (state.written payload) := by
  have eos : (state.written payload).sawEos = true →
      ∃ output ∈ outputs ++ [payload], isEosRecord output = true := by
    rw [written_sawEos, Bool.or_eq_true]
    rintro (before | now)
    · obtain ⟨output, member, marked⟩ := agrees.eos before
      exact ⟨output, List.mem_append_left _ member, marked⟩
    · exact ⟨payload, List.mem_append_right _ (List.mem_singleton.mpr rfl), now⟩
  have whole : ∀ output ∈ outputs ++ [payload], OutputWellFormed output := by
    intro output member
    rcases List.mem_append.mp member with before | now
    · exact agrees.wellFormed output before
    · rwa [List.mem_singleton.mp now]
  cases kind : isFrameRecord payload with
  | false =>
      obtain ⟨frames, previous, have'⟩ := written_of_not_frame state kind
      refine ⟨whole, ?_, ?_, ?_, eos⟩
      · rw [frames, agrees.frames, List.countP_append]
        simp [kind]
      · simpa [List.filter_append, kind] using agrees.ordered
      · intro output member frame
        rw [previous, have']
        rcases List.mem_append.mp member with before | now
        · exact agrees.last output before frame
        · rw [List.mem_singleton.mp now, kind] at frame
          contradiction
  | true =>
      obtain ⟨frames, previous, have'⟩ := written_of_frame state kind
      have later : ∀ output ∈ outputs, isFrameRecord output = true →
          recordPts output ≤ recordPts payload := by
        intro output member frame
        obtain ⟨known, below⟩ := agrees.last output member frame
        exact UInt64.le_trans below (ordered kind known)
      refine ⟨whole, ?_, ?_, ?_, eos⟩
      · rw [frames, agrees.frames, List.countP_append]
        simp [kind, UInt32.ofNat_add]
      · rw [List.filter_append, List.map_append, List.pairwise_append]
        refine ⟨agrees.ordered, by simp [kind], ?_⟩
        intro one memberOne other memberOther
        obtain ⟨output, member, rfl⟩ := List.mem_map.mp memberOne
        obtain ⟨inside, frame⟩ := List.mem_filter.mp member
        simp only [List.filter_cons, kind, if_true, List.filter_nil, List.map_cons, List.map_nil,
          List.mem_singleton] at memberOther
        rw [memberOther]
        exact later output inside frame
      · intro output member frame
        rw [previous, have']
        refine ⟨rfl, ?_⟩
        rcases List.mem_append.mp member with before | now
        · exact later output before frame
        · rw [List.mem_singleton.mp now]
          exact UInt64.le_refl _

/-- Some more records have been received and written. -/
def Delivered (outputs : List Bytes) (log : PipeLog) (state : PipeOutputState) : Prop :=
  ∃ more, Effect log (delivered more) ∧ OutputsAgree (outputs ++ more) state

/-- Before anything is asked for nothing has been delivered. -/
theorem delivered_start (agrees : OutputsAgree outputs state) : Delivered outputs [] state :=
  ⟨[], effect_nil, by rwa [List.append_nil]⟩

/-- A call of `drain_output` that has not failed. -/
theorem Delivered.drain {before : PipeLog} (sofar : Delivered outputs before state)
    (drained : Drained state log result next) (inside : ¬(result < 0 ∨ 2 < result)) :
    Delivered outputs (before ++ log) next := by
  obtain ⟨more, effect, agrees⟩ := sofar
  cases drained with
  | record payload one wellFormed ordered =>
      refine ⟨more ++ [payload], ?_, ?_⟩
      · rw [delivered_append]
        exact effect.append one
      · rw [← List.append_assoc]
        exact agrees.written wellFormed ordered
  | idle silent _ => exact ⟨more, effect.append_silent silent, agrees⟩
  | failed outside => exact absurd outside inside

/-- Draining delivers what the worker has ready, each record received and written in its turn. -/
theorem delivered_drainUntilAgain (agrees : OutputsAgree outputs state)
    (run : (drainUntilAgain fuel sessionId state).Runs log (result, next)) (zero : result = 0) :
    Delivered outputs log next := by
  refine run.loop_invariant (fun log state => Delivered outputs log state)
    (fun log final => final.1 = 0 → Delivered outputs log final.2)
    not_runs_exhausted (delivered_start agrees) ?_ ?_ zero
  · intro before state sofar log next round
    obtain ⟨drain, ⟨drained, after⟩, rest, one, two, rfl⟩ := round.of_bind
    dsimp only at two
    split at two
    · exact nomatch two.of_pure.2
    split at two
    · exact nomatch two.of_pure.2
    next inside =>
      obtain ⟨rfl, same⟩ := two.of_pure
      cases same
      rw [List.append_nil]
      exact sofar.drain (drained_drainOutput one) inside
  · intro before state sofar log final round succeeded
    obtain ⟨drain, ⟨drained, after⟩, rest, one, two, rfl⟩ := round.of_bind
    dsimp only at two
    split at two
    next again =>
      obtain ⟨rfl, same⟩ := two.of_pure
      cases same
      rw [List.append_nil]
      exact sofar.drain (drained_drainOutput one) (by omega)
    split at two
    · cases two.of_pure.2
      exact absurd succeeded Int.one_ne_zero
    · exact nomatch two.of_pure.2

/-- Waiting for the end delivers what comes until then in the same way as a drain does. -/
theorem delivered_awaitOutputEos (agrees : OutputsAgree outputs state)
    (run : (awaitOutputEos fuel sessionId state).Runs log (result, next)) (zero : result = 0) :
    Delivered outputs log next := by
  refine run.loop_invariant (fun log entry => Delivered outputs log entry.2)
    (fun log final => final.1 = 0 → Delivered outputs log final.2)
    not_runs_exhausted (delivered_start agrees) ?_ ?_ zero
  · intro before entry sofar log next round
    dsimp only at round
    split at round
    · obtain ⟨drain, ⟨drained, after⟩, rest, one, two, rfl⟩ := round.of_bind
      dsimp only at two
      split at two
      next again =>
        obtain ⟨rfl, same⟩ := two.of_pure
        cases same
        rw [List.append_nil]
        exact sofar.drain (drained_drainOutput one) (by omega)
      split at two
      · exact nomatch two.of_pure.2
      next inside =>
        obtain ⟨rfl, same⟩ := two.of_pure
        cases same
        rw [List.append_nil]
        exact sofar.drain (drained_drainOutput one) inside
    · exact nomatch round.of_pure.2
  · intro before entry sofar log final round succeeded
    dsimp only at round
    split at round
    · obtain ⟨drain, ⟨drained, after⟩, rest, one, two, rfl⟩ := round.of_bind
      dsimp only at two
      split at two
      · exact nomatch two.of_pure.2
      split at two
      · cases two.of_pure.2
        exact absurd succeeded Int.one_ne_zero
      · exact nomatch two.of_pure.2
    · obtain ⟨rfl, same⟩ := round.of_pure
      cases same
      rw [List.append_nil]
      exact sofar

end Output

/-! ### Input -/

/-- A whole record on standard input. -/
structure PipeRecord where
  header : Bytes
  data : Bytes
  header_length : header.length = 16
  data_length : data.length = (getU32 header 12).toNat

/-- The record as it stands on the stream. -/
def PipeRecord.bytes (record : PipeRecord) : Bytes := record.header ++ record.data

def PipeRecord.isFrame (record : PipeRecord) : Bool := isFrameRecord record.header

def PipeRecord.isEos (record : PipeRecord) : Bool := isEosRecord record.header

/-- The payload of the input request for a record: its header and what the codec is to get. -/
def Queued (session : PipeSession) (record : PipeRecord) (payload : Bytes) : Prop :=
  ∃ input, CodecInput session record.data input ∧ payload = record.header ++ input

/-- Everything seen so far, for the records that have been read. -/
structure PipeAgrees (session : PipeSession) (log : PipeLog) (records : List PipeRecord)
    (inputs outputs : List Bytes) (progress : PipeProgress) : Prop where
  accepted : acceptedRequests log = inputs.map fun input => (.input, input)
  queued : List.Forall₂ (Queued session) records inputs
  received : receivedRecords log = outputs
  written : writtenOutput log = outputs.flatten
  outputs : OutputsAgree outputs progress.output
  frames : progress.inputFrames = UInt32.ofNat (records.countP PipeRecord.isFrame)
  unmarked : ∀ record ∈ records, record.isEos = false

section Input

variable {session : PipeSession} {fuel : Nat} {log : PipeLog} {header data : Bytes}
  {progress next : PipeProgress} {outputs : List Bytes}

/-- The locals after a record has been counted. -/
def PipeProgress.counted (progress : PipeProgress) (header : Bytes) : PipeProgress :=
  if isFrameRecord header then
    { progress with lastPts := getU64 header 0, inputFrames := progress.inputFrames + 1 }
  else { progress with lastPts := getU64 header 0 }

/-- Counting an input record leaves the output alone. -/
theorem counted_output : (progress.counted header).output = progress.output := by
  rw [PipeProgress.counted]
  split <;> rfl

/-- An iteration that goes on has queued its record once and delivered what came out. -/
theorem pipeRecord_again (agrees : OutputsAgree outputs progress.output)
    (run : (pipeRecord fuel session progress header data).Runs log (.again next)) :
    isEosRecord header = false ∧ next.inputFrames = (progress.counted header).inputFrames ∧
      ∃ input more, CodecInput session data input ∧
        Effect log (.accepted .input (header ++ input) :: delivered more) ∧
        OutputsAgree (outputs ++ more) next.output := by
  rw [pipeRecord] at run
  dsimp only at run
  split at run
  · exact nomatch run.of_pure.2
  next unmarked =>
    obtain ⟨converted, answer, rest, one, two, rfl⟩ := run.of_bind
    cases answer with
    | none => exact nomatch two.of_pure.2
    | some input =>
        obtain ⟨silent, codec⟩ := effect_codecInput one
        obtain ⟨queuing, queued, drains, three, four, rfl⟩ := two.of_bind
        split at four
        · exact nomatch four.of_pure.2
        next zero =>
          have accepted := effect_queueInput three (not_not.mp zero)
          obtain ⟨drain, ⟨result, output⟩, last, five, six, rfl⟩ := four.of_bind
          dsimp only at six
          split at six
          · exact nomatch six.of_pure.2
          next drained =>
            obtain ⟨rfl, same⟩ := six.of_pure
            cases same
            obtain ⟨more, effect, further⟩ :=
              delivered_drainUntilAgain (counted_output ▸ agrees) five (not_not.mp drained)
            refine ⟨by simpa [isEosRecord] using unmarked, rfl, input, more, codec, ?_, further⟩
            exact silent.silent_append (accepted.append (effect.append_silent effect_nil))

/-- An iteration that ends the input with success has met the end-of-stream flag. -/
theorem pipeRecord_leave
    (run : (pipeRecord fuel session progress header data).Runs log (.leave (0, next))) :
    isEosRecord header = true ∧ log = [] ∧
      next = { progress with lastPts := getU64 header 0 } := by
  rw [pipeRecord] at run
  dsimp only at run
  split at run
  next marked =>
    obtain ⟨rfl, same⟩ := run.of_pure
    cases same
    exact ⟨by simpa [isEosRecord] using marked, rfl, rfl⟩
  next =>
    obtain ⟨converted, answer, rest, one, two, rfl⟩ := run.of_bind
    cases answer with
    | none => exact nomatch two.of_pure.2
    | some input =>
        obtain ⟨queuing, queued, drains, three, four, rfl⟩ := two.of_bind
        split at four
        · exact nomatch four.of_pure.2
        next zero =>
          obtain ⟨drain, ⟨result, output⟩, last, five, six, rfl⟩ := four.of_bind
          dsimp only at six
          split at six
          next failed =>
            cases six.of_pure.2
            contradiction
          next => exact nomatch six.of_pure.2

/-- The records taken off standard input so far. -/
def Consumed (log : PipeLog) (records : List PipeRecord) : Prop :=
  ∀ before after, Stdin.Serves before log after →
    before.remaining = records.flatMap PipeRecord.bytes ++ after.remaining

/-- The input is over: at the end of the file, or behind the first record with the flag. -/
def InputEnds (log : PipeLog) (records : List PipeRecord) : Prop :=
  ∀ before after, Stdin.Serves before log after →
    before.remaining = records.flatMap PipeRecord.bytes ∨
      ∃ last : PipeRecord, last.isEos = true ∧
        before.remaining = records.flatMap PipeRecord.bytes ++ last.bytes ++ after.remaining

/-- What a finished input loop has taken off standard input: the records it queued, and the record with
the flag that ended it, or everything there was. -/
structure InputTaken (log : PipeLog) (records : List PipeRecord) (last : Option PipeRecord) : Prop where
  marked : ∀ record ∈ last, record.isEos = true
  consumed : Consumed log (records ++ last.toList)
  ended : last = none → ∀ before after, Stdin.Serves before log after → after.remaining = []

/-- Input that was taken ends where the last record said so or standard input did. -/
theorem InputTaken.ends {records : List PipeRecord} {last : Option PipeRecord}
    (taken : InputTaken log records last) : InputEnds log records := by
  intro before after serves
  have consumed := taken.consumed before after serves
  cases last with
  | none =>
      left
      rw [taken.ended rfl before after serves] at consumed
      simpa using consumed
  | some last => exact .inr ⟨last, taken.marked last rfl, by simpa using consumed⟩

/-- Before the first record of the input nothing has been asked and nothing delivered. -/
theorem pipeAgrees_initial : PipeAgrees session [] [] [] [] {} :=
  ⟨rfl, .nil, rfl, rfl, outputsAgree_initial, rfl, fun _ impossible => nomatch impossible⟩

/-- A record that has been queued joins the records before it, with its converted input and with the
output that has come meanwhile. -/
theorem PipeAgrees.snoc {before : PipeLog} {records : List PipeRecord}
    {inputs more : List Bytes} {record : PipeRecord} {input : Bytes}
    (agrees : PipeAgrees session before records inputs outputs progress)
    (unmarked : record.isEos = false)
    (frames : next.inputFrames = (progress.counted record.header).inputFrames)
    (codec : CodecInput session record.data input)
    (seen : events log = .accepted .input (record.header ++ input) :: delivered more)
    (further : OutputsAgree (outputs ++ more) next.output) :
    PipeAgrees session (before ++ log) (records ++ [record])
      (inputs ++ [record.header ++ input]) (outputs ++ more) next := by
  constructor
  · rw [acceptedRequests_append, agrees.accepted, List.map_append, acceptedRequests, seen]
    exact congrArg (fun rest => _ ++ (_ :: rest)) accepted_delivered
  · exact List.rel_append agrees.queued (.cons ⟨input, codec, rfl⟩ .nil)
  · rw [receivedRecords_append, agrees.received, receivedRecords, seen]
    exact congrArg (outputs ++ ·) received_delivered
  · rw [writtenOutput_append, agrees.written, writtenOutput, seen, List.flatten_append]
    exact congrArg (outputs.flatten ++ ·) written_delivered
  · exact further
  · rw [frames, PipeProgress.counted, List.countP_append, UInt32.ofNat_add, ← agrees.frames,
      List.countP_singleton, PipeRecord.isFrame]
    split <;> simp
  · intro other member
    rcases List.mem_append.mp member with earlier | now
    · exact agrees.unmarked other earlier
    · rwa [List.mem_singleton.mp now]

/-- Silent calls change nothing of what is seen. -/
theorem PipeAgrees.silent {before : PipeLog} {records : List PipeRecord} {inputs : List Bytes}
    (agrees : PipeAgrees session before records inputs outputs progress) (silent : events log = [])
    (output : next.output = progress.output) (frames : next.inputFrames = progress.inputFrames) :
    PipeAgrees session (before ++ log) records inputs outputs next := by
  have same : events (before ++ log) = events before := by
    rw [events_append, silent, List.append_nil]
  refine ⟨?_, agrees.queued, ?_, ?_, output ▸ agrees.outputs, frames ▸ agrees.frames,
    agrees.unmarked⟩
  · rw [acceptedRequests, same]
    exact agrees.accepted
  · rw [receivedRecords, same]
    exact agrees.received
  · rw [writtenOutput, same]
    exact agrees.written

/-- When the input loop returns 0 all records taken from standard input were sent in their order, and
what came back was written. -/
theorem pipeInput_spec {result : Int} (run : (pipeInput fuel session).Runs log (result, next))
    (zero : result = 0) :
    ∃ records inputs outputs last, PipeAgrees session log records inputs outputs next ∧
      InputTaken log records last := by
  refine run.loop_invariant
    (fun log progress => ∃ records inputs outputs,
      PipeAgrees session log records inputs outputs progress ∧ Consumed log records)
    (fun log final => final.1 = 0 → ∃ records inputs outputs last,
      PipeAgrees session log records inputs outputs final.2 ∧ InputTaken log records last)
    not_runs_exhausted ⟨[], [], [], pipeAgrees_initial, ?_⟩ ?_ ?_ zero
  · intro before after same
    rw [same]
    rfl
  · rintro before progress ⟨records, inputs, outputs, agrees, consumed⟩ log next round
    obtain ⟨reading, read, rest, one, two, rfl⟩ := round.of_bind
    have taken := recordAgrees_readRecord one
    cases read with
    | failed | endOfFile => exact nomatch two.of_pure.2
    | record header data =>
        obtain ⟨headed, whole, reads⟩ := taken
        obtain ⟨unmarked, frames, input, more, codec, effect, further⟩ :=
          pipeRecord_again agrees.outputs two
        let record : PipeRecord := ⟨header, data, headed, whole⟩
        refine ⟨records ++ [record], inputs ++ [header ++ input], outputs ++ more, ?_, ?_⟩
        · have seen : events (reading ++ rest) =
              .accepted .input (header ++ input) :: delivered more := by
            rw [events_append, reads.silent, effect.events]
            rfl
          exact agrees.snoc unmarked frames codec seen further
        · intro earlier later serves
          obtain ⟨middle, here, there⟩ := Stdin.serves_append.mp serves
          obtain ⟨between, reading', quiet⟩ := Stdin.serves_append.mp there
          rw [consumed earlier middle here, reads.taken middle between reading',
            effect.still between later quiet, List.flatMap_append]
          simp [PipeRecord.bytes, record]
  · rintro before progress ⟨records, inputs, outputs, agrees, consumed⟩ log ⟨result, next⟩ round
      (rfl : result = 0)
    obtain ⟨reading, read, rest, one, two, rfl⟩ := round.of_bind
    have taken := recordAgrees_readRecord one
    cases read with
    | failed => exact nomatch two.of_pure.2
    | endOfFile =>
        obtain ⟨rfl, same⟩ := two.of_pure
        cases same
        rw [List.append_nil]
        refine ⟨records, inputs, outputs, none, agrees.silent taken.1.silent rfl rfl, ?_⟩
        constructor
        · exact fun _ impossible => nomatch impossible
        · intro earlier later serves
          obtain ⟨middle, here, there⟩ := Stdin.serves_append.mp serves
          rw [consumed earlier middle here, taken.1.taken middle later there]
          simp
        · intro _ earlier later serves
          obtain ⟨middle, _, there⟩ := Stdin.serves_append.mp serves
          exact (taken.1.taken middle later there).symm.trans (taken.2 middle later there)
    | record header data =>
        obtain ⟨headed, whole, reads⟩ := taken
        obtain ⟨marked, rfl, rfl⟩ := pipeRecord_leave two
        rw [List.append_nil]
        let last : PipeRecord := ⟨header, data, headed, whole⟩
        refine ⟨records, inputs, outputs, some last, agrees.silent reads.silent rfl rfl, ?_⟩
        constructor
        · rintro record ⟨⟩
          exact marked
        · intro earlier later serves
          obtain ⟨middle, here, there⟩ := Stdin.serves_append.mp serves
          rw [consumed earlier middle here, reads.taken middle later there]
          simp [PipeRecord.bytes, last]
        · exact fun impossible => nomatch impossible

end Input

/-! ### Whole sessions -/

/-- What a pipe session that returns 0 has done with standard input, with the worker and with standard
output. -/
structure PipeContract (session : PipeSession) (stdin : Bytes) (log : PipeLog)
    (records : List PipeRecord) (inputs : List Bytes) : Prop where
  /-- Standard input is these records, up to its end or to the first record with the flag. -/
  parsed : stdin = records.flatMap PipeRecord.bytes ∨
    ∃ (last : PipeRecord) (rest : Bytes), last.isEos = true ∧
      stdin = records.flatMap PipeRecord.bytes ++ last.bytes ++ rest
  unmarked : ∀ record ∈ records, record.isEos = false
  queued : List.Forall₂ (Queued session) records inputs
  /-- The worker accepted each of them once and in order, and behind them one end of stream. -/
  accepted : ∃ pts, acceptedRequests log =
    inputs.map (fun input => (.input, input)) ++ [(.eos, putU64 (List.replicate 8 0) 0 pts)]
  written : writtenOutput log = (receivedRecords log).flatten
  wellFormed : ∀ output ∈ receivedRecords log, OutputWellFormed output
  ordered : (((receivedRecords log).filter isFrameRecord).map recordPts).Pairwise (· ≤ ·)
  eos : ∃ output ∈ receivedRecords log, isEosRecord output = true
  /-- The counters have 32 bits. -/
  counted : records.length < 2 ^ 32 → (receivedRecords log).length < 2 ^ 32 →
    (receivedRecords log).countP isFrameRecord = records.countP PipeRecord.isFrame ∧
      1 ≤ records.countP PipeRecord.isFrame

section Session

variable {session : PipeSession} {fuel : Nat} {log : PipeLog} {result : Int}

/-- The verdict is 0 only when the end of the output was seen and as many frames came out as went in. -/
theorem pipeVerdict_spec {inputFrames : UInt32} {output : PipeOutputState}
    (run : (pipeVerdict result inputFrames output).Runs log 0) :
    result = 0 ∧ log = [] ∧ output.sawEos = true ∧ inputFrames ≠ 0 ∧
      output.frames = inputFrames := by
  rw [pipeVerdict] at run
  split at run
  next zero =>
    split at run
    · obtain ⟨_, _, _, _, done, _⟩ := run.of_bind
      exact nomatch done.of_pure.2
    next seen =>
    split at run
    · obtain ⟨_, _, _, _, done, _⟩ := run.of_bind
      exact nomatch done.of_pure.2
    next agree =>
      obtain ⟨counted, same⟩ := not_or.mp agree
      exact ⟨zero, run.of_pure.1, by simpa using seen, counted, not_not.mp same⟩
  next failed => exact absurd run.of_pure.2.symm failed

/-- Two counters of 32 bits that agree and are not zero. -/
theorem counts_agree {inputs outputs : Nat} (few : inputs < 2 ^ 32) (few' : outputs < 2 ^ 32)
    (same : UInt32.ofNat outputs = UInt32.ofNat inputs) (some : UInt32.ofNat inputs ≠ 0) :
    outputs = inputs ∧ 1 ≤ inputs := by
  have equal : outputs = inputs := by
    have values := congrArg UInt32.toNat same
    rwa [UInt32.toNat_ofNat_of_lt' few', UInt32.toNat_ofNat_of_lt' few] at values
  refine ⟨equal, Nat.one_le_iff_ne_zero.mpr fun zero => some ?_⟩
  rw [zero]
  rfl

/-- The session has delivered `more` behind what the input loop left, and closed the input once. -/
theorem pipeContract_of_agrees {reading closing draining rest : PipeLog}
    {records : List PipeRecord} {inputs outputs more : List Bytes} {progress : PipeProgress}
    {output : PipeOutputState} {pts : UInt64} {before after : Stdin}
    (agrees : PipeAgrees session reading records inputs outputs progress)
    (ends : InputEnds reading records)
    (eos : Effect closing [.accepted .eos (putU64 (List.replicate 8 0) 0 pts)])
    (effect : Effect draining (delivered more)) (further : OutputsAgree (outputs ++ more) output)
    (silent : Effect rest []) (seen : output.sawEos = true) (some : progress.inputFrames ≠ 0)
    (equal : output.frames = progress.inputFrames)
    (serves : before.Serves (reading ++ (closing ++ (draining ++ rest))) after) :
    PipeContract session before.remaining (reading ++ (closing ++ (draining ++ rest))) records
      inputs := by
  have received : receivedRecords (reading ++ (closing ++ (draining ++ rest))) =
      outputs ++ more := by
    simp only [receivedRecords_append, agrees.received]
    simp only [receivedRecords, eos.events, effect.events, silent.events, received_delivered]
    exact congrArg (outputs ++ ·) (List.append_nil more)
  constructor
  · obtain ⟨middle, here, there⟩ := Stdin.serves_append.mp serves
    rcases ends before middle here with whole | ⟨last, marked, whole⟩
    · exact .inl whole
    · exact .inr ⟨last, middle.remaining, marked, whole⟩
  · exact agrees.unmarked
  · exact agrees.queued
  · refine ⟨pts, ?_⟩
    simp only [acceptedRequests_append, agrees.accepted]
    simp only [acceptedRequests, eos.events, effect.events, silent.events, accepted_delivered]
    rfl
  · rw [received, List.flatten_append]
    simp only [writtenOutput_append, agrees.written]
    simp only [writtenOutput, eos.events, effect.events, silent.events, written_delivered]
    exact congrArg (outputs.flatten ++ ·) (List.append_nil more.flatten)
  · rw [received]
    exact further.wellFormed
  · rw [received]
    exact further.ordered
  · rw [received]
    exact further.eos seen
  · rw [received]
    intro few few'
    rw [further.frames, agrees.frames] at equal
    rw [agrees.frames] at some
    exact counts_agree (Nat.lt_of_le_of_lt List.countP_le_length few)
      (Nat.lt_of_le_of_lt List.countP_le_length few') equal some

/-- `pipeSession` with the final value of `input_frames` beside its result. -/
def pipeSessionCounting (fuel : Nat) (session : PipeSession) : Pipe (Int × UInt32) := do
  let (result, progress) ← pipeInput fuel session
  let result ← pipeEos fuel session result progress
  let (result, output) ← pipeOutput fuel session result progress.output
  let result ← pipeVerdict result progress.inputFrames output
  let reported ← reportSessionStats session.sessionId
  Pipe.closeSession session.sessionId
  pure (if reported ≠ 0 then 1 else result, progress.inputFrames)

/-- What a session that returns 0 has taken off standard input, and how many pictures it counted. -/
structure SessionTaken (before after : Stdin) (records : List PipeRecord) (last : Option PipeRecord)
    (inputFrames : UInt32) : Prop where
  marked : ∀ record ∈ last, record.isEos = true
  taken : before.remaining = (records ++ last.toList).flatMap PipeRecord.bytes ++ after.remaining
  ended : last = none → after.remaining = []
  counted : inputFrames = UInt32.ofNat (records.countP PipeRecord.isFrame)

/-- A session that ends with 0 has met every part of its contract on the standard input that served it.
-/
theorem pipeSessionCounting_spec {inputFrames : UInt32}
    (run : (pipeSessionCounting fuel session).Runs log (0, inputFrames)) {before after : Stdin}
    (serves : before.Serves log after) :
    ∃ records inputs last, PipeContract session before.remaining log records inputs ∧
      SessionTaken before after records last inputFrames := by
  obtain ⟨reading, ⟨result, progress⟩, afterInput, one, run1, rfl⟩ := run.of_bind
  obtain ⟨closing, closed, afterEos, two, run2, rfl⟩ := run1.of_bind
  obtain ⟨draining, ⟨drained, output⟩, afterOutput, three, run3, rfl⟩ := run2.of_bind
  obtain ⟨judging, verdict, afterVerdict, four, run4, rfl⟩ := run3.of_bind
  obtain ⟨asking, reported, afterStats, five, run5, rfl⟩ := run4.of_bind
  obtain ⟨ending, _, afterClose, six, run6, rfl⟩ := run5.of_bind
  obtain ⟨rfl, same⟩ := run6.of_pure
  obtain ⟨zero, rfl⟩ := Prod.mk.inj same
  -- Going backwards, every result on the way was zero.
  split at zero
  · exact absurd zero (by decide)
  subst zero
  obtain ⟨rfl, rfl, seen, some, equal⟩ := pipeVerdict_spec four
  rw [pipeOutput] at three
  split at three
  next closedOk =>
    rw [pipeEos] at two
    split at two
    next inputOk =>
      obtain ⟨records, inputs, outputs, last, agrees, taken⟩ := pipeInput_spec one inputOk
      obtain ⟨more, effect, further⟩ := delivered_awaitOutputEos agrees.outputs three rfl
      have closes := effect_queueEos two closedOk
      have silent := (effect_reportSessionStats five).append_silent
        ((effect_closeSession six).append_silent effect_nil)
      refine ⟨records, inputs, last, pipeContract_of_agrees agrees taken.ends closes
        effect further silent seen some equal serves, ?_⟩
      -- Behind the input loop nothing looks at standard input any more.
      obtain ⟨middle, here, there⟩ := Stdin.serves_append.mp serves
      rw [(closes.append (effect.append silent)).still middle after there]
      exact ⟨taken.marked, taken.consumed before middle here,
        fun ended => taken.ended ended before middle here, agrees.frames⟩
    next failed => exact absurd (two.of_pure.2.symm.trans closedOk) failed
  next failed =>
    cases three.of_pure.2
    contradiction

/-- The contract speaks about the events alone. -/
theorem PipeContract.congr {stdin : Bytes} {other : PipeLog} {records : List PipeRecord}
    {inputs : List Bytes} (contract : PipeContract session stdin log records inputs)
    (same : events other = events log) : PipeContract session stdin other records inputs := by
  have received : receivedRecords other = receivedRecords log := by
    rw [receivedRecords, same]
    rfl
  refine ⟨contract.parsed, contract.unmarked, contract.queued, ?_, ?_, ?_, ?_, ?_, ?_⟩
  · rw [acceptedRequests, same]
    exact contract.accepted
  · rw [writtenOutput, same, received]
    exact contract.written
  · rw [received]
    exact contract.wellFormed
  · rw [received]
    exact contract.ordered
  · rw [received]
    exact contract.eos
  · rw [received]
    exact contract.counted

end Session

/-- `runPipeSession` with the final value of `input_frames` beside its result. -/
def runPipeSessionCounting (fuel : Nat) (session : PipeSession) : Pipe (Int × UInt32) :=
  if session.requestSyncFrame then do
    let requested ← requestKeyframe session.sessionId
    if requested ≠ 0 then do
      Pipe.closeSession session.sessionId
      pure (1, 0)
    else pipeSessionCounting fuel session
  else pipeSessionCounting fuel session

/-- The counter is looked at and not changed. -/
theorem runPipeSession_eq (fuel : Nat) (session : PipeSession) :
    runPipeSession fuel session = Prod.fst <$> runPipeSessionCounting fuel session := by
  have counting : pipeSession fuel session = Prod.fst <$> pipeSessionCounting fuel session := by
    simp only [pipeSession, pipeSessionCounting, map_bind, map_pure]
  rw [runPipeSession, runPipeSessionCounting, counting]
  split
  · rw [map_bind]
    refine congrArg (requestKeyframe session.sessionId >>= ·) (funext fun requested => ?_)
    split <;> simp only [map_bind, map_pure]
  · rfl

/-- The same of a session that gives its codec back at the end, together with what it has taken off
standard input. -/
theorem runPipeSessionCounting_spec {fuel : Nat} {session : PipeSession} {log : PipeLog}
    {inputFrames : UInt32} {before after : Stdin}
    (run : (runPipeSessionCounting fuel session).Runs log (0, inputFrames))
    (serves : before.Serves log after) :
    ∃ records inputs last, PipeContract session before.remaining log records inputs ∧
      SessionTaken before after records last inputFrames := by
  rw [runPipeSessionCounting] at run
  split at run
  · obtain ⟨requesting, requested, rest, one, two, rfl⟩ := run.of_bind
    split at two
    · obtain ⟨_, _, _, _, done, _⟩ := two.of_bind
      exact nomatch done.of_pure.2
    next =>
      have silent := effect_requestKeyframe one
      obtain ⟨middle, here, there⟩ := Stdin.serves_append.mp serves
      have still := silent.still _ middle here
      subst still
      obtain ⟨records, inputs, last, contract, taken⟩ := pipeSessionCounting_spec two there
      refine ⟨records, inputs, last, contract.congr ?_, taken⟩
      rw [events_append, silent.events]
      rfl
  · exact pipeSessionCounting_spec run serves

/-- For every standard input, every behaviour of the worker and every allocation and write failure, a
pipe session that returns 0 meets its contract. -/
theorem pipe_session_contract {fuel : Nat} {session : PipeSession} {log : PipeLog}
    {stdin : Bytes} {error : Bool} {after : Stdin} (run : (runPipeSession fuel session).Runs log 0)
    (serves : Stdin.Serves ⟨stdin, error⟩ log after) :
    ∃ records inputs, PipeContract session stdin log records inputs := by
  rw [runPipeSession_eq, runs_map] at run
  obtain ⟨⟨_, inputFrames⟩, counting, rfl⟩ := run
  obtain ⟨records, inputs, _, contract, _⟩ := runPipeSessionCounting_spec counting serves
  exact ⟨records, inputs, contract⟩

/-- An answer without a payload. -/
def emptyAnswer (status : Int32) : RpcAnswer := ⟨status, [], Nat.zero_le _⟩

/-- A decoder session. -/
def decodeSession : PipeSession where
  sharedMemorySupported := true
  sessionId := 1
  mode := 1
  colorFormat := 0
  width := 64
  height := 64
  requestSyncFrame := false

/-- A picture of one byte at five microseconds. -/
def oneFrame : Bytes := BigEndian.encodeFields [(8, 5), (4, 0), (4, 1), (1, 7)]

/-- The same with the end-of-stream flag, and another byte. -/
def lastFrame : Bytes := BigEndian.encodeFields [(8, 5), (4, 4), (4, 1), (1, 9)]

theorem oneFrame_header : (oneFrame.take 16).length ≤ 16 := by decide

theorem lastFrame_header : (lastFrame.take 16).length ≤ 16 := by decide

theorem lastFrame_fits : lastFrame.length ≤ dscwMaxPayload.toNat := by decide

theorem nothing_read : ([] : Bytes).length ≤ 16 := by decide

theorem seven_read : ([7] : Bytes).length ≤ 1 := by decide

/-- A session in which one picture goes in, comes out marked, and standard input ends. -/
def oneFrameLog : PipeLog :=
  [ ⟨.fread 16, ⟨oneFrame.take 16, by decide⟩⟩, ⟨.malloc 1, some fun _ => 0⟩,
    ⟨.fread 1, ⟨[7], by decide⟩⟩, ⟨.malloc 17, some fun _ => 0⟩,
    ⟨.rpc .input 1 oneFrame, some (emptyAnswer codecOk)⟩,
    ⟨.rpc .output 1 [0, 0, 0, 0], some ⟨codecOk, lastFrame, by decide⟩⟩,
    ⟨.fwrite lastFrame, (17 : Nat)⟩, ⟨.fflush, true⟩,
    ⟨.rpc .output 1 [0, 0, 0, 0], some (emptyAnswer codecAgain)⟩,
    ⟨.fread 16, ⟨[], by decide⟩⟩, ⟨.ferror, false⟩,
    ⟨.rpc .eos 1 [0, 0, 0, 0, 0, 0, 0, 5], some (emptyAnswer codecOk)⟩,
    ⟨.rpc .sessionStats 1 [], some (emptyAnswer codecOk)⟩,
    ⟨.stderr (textBytes "dawnshell-codec: session-stats=\n"), ()⟩,
    ⟨.rpc .close 1 [], some (emptyAnswer codecOk)⟩ ]

/-- A decoder session over one frame runs along this log and ends with 0. -/
theorem runs_oneFrameLog : (runPipeSession 3 decodeSession).Runs oneFrameLog 0 :=
  runs_of_replay (by decide +kernel)

/-- Standard input with that frame serves the reads of the log and is empty behind it. -/
theorem serves_oneFrameLog : Stdin.Serves ⟨oneFrame, false⟩ oneFrameLog ⟨[], false⟩ := by
  refine ⟨⟨[7], false⟩, ⟨rfl, by decide, id⟩, _, rfl, ⟨[], false⟩, ⟨rfl, by decide, id⟩, ?_⟩
  refine ⟨_, rfl, _, rfl, _, rfl, _, rfl, _, rfl, _, rfl, ?_⟩
  exact ⟨⟨[], false⟩, ⟨rfl, fun _ => .inl rfl, id⟩, _, ⟨rfl, rfl⟩, _, rfl, _, rfl, _, rfl, _, rfl,
    rfl⟩

/-- A session of an encoder that takes its chroma samples in turns, with a key frame asked for first. -/
def encodeSession : PipeSession where
  sharedMemorySupported := true
  sessionId := 1
  mode := 2
  colorFormat := 21
  width := 4
  height := 2
  requestSyncFrame := true

/-- The header of a record. -/
def headerOf (pts flags length : Nat) : Bytes :=
  BigEndian.encodeFields [(8, pts), (4, flags), (4, length)]

/-- The planes of two pictures. -/
def firstPicture : Bytes := [1, 2, 3, 4, 5, 6, 7, 8, 9, 10, 11, 12]

def secondPicture : Bytes := [21, 22, 23, 24, 25, 26, 27, 28, 29, 30, 31, 32]

/-- The records that are queued for them. -/
def firstInput : Bytes := headerOf 5 0 12 ++ [1, 2, 3, 4, 5, 6, 7, 8, 9, 11, 10, 12]

def secondInput : Bytes := headerOf 7 0 12 ++ [21, 22, 23, 24, 25, 26, 27, 28, 29, 31, 30, 32]

/-- Both pictures, a record with the end-of-stream flag, and a byte behind it. -/
def encoderStdin : Bytes :=
  headerOf 5 0 12 ++ firstPicture ++ headerOf 7 0 12 ++ secondPicture ++ headerOf 9 4 0 ++ [255]

/-- What the encoder delivers: configuration and two pictures, the last one with the flag. -/
def configOutput : Bytes := headerOf 0 2 1 ++ [40]

def firstOutput : Bytes := headerOf 5 0 1 ++ [41]

def lastOutput : Bytes := headerOf 7 4 1 ++ [42]

/-- The worker has no buffer for the first picture at once, then changes its format and delivers the
configuration and the picture; the other picture comes only behind the end of the stream. -/
def encoderLog : PipeLog :=
  [ ⟨.rpc .requestKeyframe 1 [], some (emptyAnswer codecOk)⟩,
    ⟨.fread 16, ⟨headerOf 5 0 12, by decide⟩⟩, ⟨.malloc 12, some fun _ => 0⟩,
    ⟨.fread 12, ⟨firstPicture, by decide⟩⟩, ⟨.malloc 12, some fun _ => 0⟩,
    ⟨.malloc 28, some fun _ => 0⟩,
    ⟨.rpc .input 1 firstInput, some (emptyAnswer codecAgain)⟩, ⟨.usleep 2000, ()⟩,
    ⟨.rpc .input 1 firstInput, some (emptyAnswer codecOk)⟩,
    ⟨.rpc .output 1 [0, 0, 0, 0], some ⟨codecFormatChanged,
      BigEndian.encodeFields [(4, 4), (4, 2), (4, 4), (4, 2), (4, 21)], by decide⟩⟩,
    ⟨.stderr (textBytes ("dawnshell-codec: output-format width=4 height=2 stride=4 " ++
      "slice-height=2 pixel-format=21\n")), ()⟩,
    ⟨.rpc .output 1 [0, 0, 0, 0], some ⟨codecOk, configOutput, by decide⟩⟩,
    ⟨.fwrite configOutput, (17 : Nat)⟩, ⟨.fflush, true⟩,
    ⟨.rpc .output 1 [0, 0, 0, 0], some ⟨codecOk, firstOutput, by decide⟩⟩,
    ⟨.fwrite firstOutput, (17 : Nat)⟩, ⟨.fflush, true⟩,
    ⟨.rpc .output 1 [0, 0, 0, 0], some (emptyAnswer codecAgain)⟩,
    ⟨.fread 16, ⟨headerOf 7 0 12, by decide⟩⟩, ⟨.malloc 12, some fun _ => 0⟩,
    ⟨.fread 12, ⟨secondPicture, by decide⟩⟩, ⟨.malloc 12, some fun _ => 0⟩,
    ⟨.malloc 28, some fun _ => 0⟩,
    ⟨.rpc .input 1 secondInput, some (emptyAnswer codecOk)⟩,
    ⟨.rpc .output 1 [0, 0, 0, 0], some (emptyAnswer codecAgain)⟩,
    ⟨.fread 16, ⟨headerOf 9 4 0, by decide⟩⟩,
    ⟨.rpc .eos 1 [0, 0, 0, 0, 0, 0, 0, 9], some (emptyAnswer codecOk)⟩,
    ⟨.rpc .output 1 [0, 0, 0, 100], some (emptyAnswer codecAgain)⟩,
    ⟨.rpc .output 1 [0, 0, 0, 100], some ⟨codecOk, lastOutput, by decide⟩⟩,
    ⟨.fwrite lastOutput, (17 : Nat)⟩, ⟨.fflush, true⟩,
    ⟨.rpc .sessionStats 1 [], some (emptyAnswer codecOk)⟩,
    ⟨.stderr (textBytes "dawnshell-codec: session-stats=\n"), ()⟩,
    ⟨.rpc .close 1 [], some (emptyAnswer codecOk)⟩ ]

/-- An encoder session over one frame and its end runs along this log and ends with 0. -/
theorem runs_encoderLog : (runPipeSession 5 encodeSession).Runs encoderLog 0 :=
  runs_of_replay (by decide +kernel)

/-- Standard input serves the reads of the log, and the byte behind the last record stays unread. -/
theorem serves_encoderLog : Stdin.Serves ⟨encoderStdin, false⟩ encoderLog ⟨[255], false⟩ := by
  refine ⟨_, rfl, ⟨encoderStdin.drop 16, false⟩, ⟨rfl, by decide, id⟩, _, rfl,
    ⟨encoderStdin.drop 28, false⟩, ⟨rfl, by decide, id⟩, ?_⟩
  refine ⟨_, rfl, _, rfl, _, rfl, _, rfl, _, rfl, _, rfl, _, rfl, ?_⟩
  refine ⟨_, rfl, _, rfl, _, rfl, _, rfl, _, rfl, _, rfl, _, rfl, ?_⟩
  refine ⟨⟨encoderStdin.drop 44, false⟩, ⟨rfl, by decide, id⟩, _, rfl,
    ⟨encoderStdin.drop 56, false⟩, ⟨rfl, by decide, id⟩, ?_⟩
  refine ⟨_, rfl, _, rfl, _, rfl, _, rfl, ⟨[255], false⟩, ⟨rfl, by decide, id⟩, ?_⟩
  exact ⟨_, rfl, _, rfl, _, rfl, _, rfl, _, rfl, _, rfl, _, rfl, _, rfl, rfl⟩

/-- The contract of that session, what was written, and the requests that were accepted: the two
pictures as the encoder wants them, and the end with the last time. -/
theorem pipe_session_contract_encoder :
    (runPipeSession 5 encodeSession).Runs encoderLog 0 ∧
      Stdin.Serves ⟨encoderStdin, false⟩ encoderLog ⟨[255], false⟩ ∧
      writtenOutput encoderLog = configOutput ++ firstOutput ++ lastOutput ∧
      acceptedRequests encoderLog = [(.input, firstInput), (.input, secondInput),
        (.eos, [0, 0, 0, 0, 0, 0, 0, 9])] ∧
      ∃ records inputs, PipeContract encodeSession encoderStdin encoderLog records inputs :=
  ⟨runs_encoderLog, serves_encoderLog, by decide +kernel, by decide +kernel,
    pipe_session_contract runs_encoderLog serves_encoderLog⟩

end DawnShell
