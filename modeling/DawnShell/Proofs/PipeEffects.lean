/-
Module: DawnShell.Proofs.PipeEffects
Layer: Proofs
Purpose: What the parts of a pipe session do to the outside: which requests the worker accepted, which
  output records it sent, what was written to standard output and what was read from standard input.
  There is one lemma for each function of the client, and callers use that lemma alone.
Trusted boundary: `Stdin.Step` states the documented behaviour of `fread` and `ferror`: a short count
  means the end of the file or an error, and the error indicator stays set
Main exports: PipeEvent, events, Stdin.Serves, Effect, effect_queueInput, effect_queueEos,
  drained_drainOutput, reads_readRecord, effect_codecInput, chromaPairs
-/
import DawnShell.Codec.Pipe
import DawnShell.Proofs.Framing

namespace DawnShell

open Wire Interaction

/-! ### Events -/

/-- What can be seen of a pipe session from outside. -/
inductive PipeEvent where
  /-- An input record or an end-of-stream request was answered with OK. -/
  | accepted (type : MessageType) (payload : Bytes)
  /-- An output request was answered with OK and this record. -/
  | received (payload : Bytes)
  /-- These bytes went to standard output. -/
  | wrote (data : Bytes)
deriving DecidableEq

/-- The event of one call. -/
def event? : Exchange PipeCall PipeCall.Answer → Option PipeEvent
  | ⟨.rpc .input _ payload, some response⟩ =>
      if response.status = codecOk then some (.accepted .input payload) else none
  | ⟨.rpc .eos _ payload, some response⟩ =>
      if response.status = codecOk then some (.accepted .eos payload) else none
  | ⟨.rpc .output _ _, some response⟩ =>
      if response.status = codecOk then some (.received response.payload) else none
  | ⟨.fwrite data, count⟩ => some (.wrote (data.take count))
  | _ => none

def events (log : PipeLog) : List PipeEvent := log.filterMap event?

/-! ### Standard input -/

/-- The bytes still to come and the error indicator. -/
structure Stdin where
  remaining : Bytes
  error : Bool

/-- How one call leaves standard input. -/
def Stdin.Step (before : Stdin) : Exchange PipeCall PipeCall.Answer → Stdin → Prop
  | ⟨.fread length, data⟩, after =>
      before.remaining = data.val ++ after.remaining ∧
        (data.val.length < length → after.remaining = [] ∨ after.error = true) ∧
        (before.error = true → after.error = true)
  | ⟨.ferror, answer⟩, after => after = before ∧ answer = before.error
  | _, after => after = before

/-- The answers in a log are those of standard input. -/
def Stdin.Serves : Stdin → PipeLog → Stdin → Prop
  | before, [], after => after = before
  | before, exchange :: log, after => ∃ middle, before.Step exchange middle ∧ middle.Serves log after

section Streams

variable {first second : PipeLog} {before after : Stdin}

/-- Standard input serves two logs in sequence when it serves the first and what is left serves the
second. -/
theorem Stdin.serves_append :
    before.Serves (first ++ second) after ↔
      ∃ middle, before.Serves first middle ∧ Stdin.Serves middle second after := by
  induction first generalizing before with
  | nil => simp [Stdin.Serves]
  | cons exchange log ih =>
      constructor
      · rintro ⟨next, step, rest⟩
        obtain ⟨middle, here, there⟩ := ih.mp rest
        exact ⟨middle, ⟨next, step, here⟩, there⟩
      · rintro ⟨middle, ⟨next, step, here⟩, there⟩
        exact ⟨next, step, ih.mpr ⟨middle, here, there⟩⟩

/-- The events of two logs in sequence are those of the first and then those of the second. -/
@[simp] theorem events_append : events (first ++ second) = events first ++ events second :=
  List.filterMap_append

@[simp] theorem events_nil : events [] = [] := rfl

end Streams

/-- A log with these events that leaves standard input alone. -/
structure Effect (log : PipeLog) (seen : List PipeEvent) : Prop where
  events : events log = seen
  still : ∀ before after, Stdin.Serves before log after → after = before

section Effects

variable {first second : PipeLog} {seen other : List PipeEvent}

/-- Without a call there is no event, and standard input is as it was. -/
theorem effect_nil : Effect [] [] := ⟨rfl, fun _ _ serves => serves⟩

/-- Effects in sequence: the events follow each other, and standard input stays untouched. -/
theorem Effect.append (one : Effect first seen) (two : Effect second other) :
    Effect (first ++ second) (seen ++ other) := by
  refine ⟨?_, fun before after serves => ?_⟩
  · rw [events_append, one.events, two.events]
  · obtain ⟨middle, here, there⟩ := Stdin.serves_append.mp serves
    rw [two.still middle after there, one.still before middle here]

/-- A part without events behind another adds none. -/
theorem Effect.append_silent (one : Effect first seen) (two : Effect second []) :
    Effect (first ++ second) seen := by
  simpa using one.append two

/-- A part without events in front of another adds none. -/
theorem Effect.silent_append (one : Effect first []) (two : Effect second seen) :
    Effect (first ++ second) seen := one.append two

/-- The calls that look at standard input. -/
def PipeCall.reads : PipeCall → Bool
  | .fread _ | .ferror => true
  | _ => false

/-- A call that does not read standard input has its own event and leaves the input alone. -/
theorem effect_call {request : PipeCall} {answer : request.Answer}
    (run : (Pipe.call request).Runs first answer) (unread : request.reads = false) :
    Effect first (events [⟨request, answer⟩]) := by
  rw [run.of_call]
  refine ⟨rfl, ?_⟩
  rintro before after ⟨middle, step, rfl⟩
  cases request <;> first | exact step | contradiction

end Effects

/-! ### Requests -/

section Requests

variable {fuel : Nat} {type : MessageType} {sessionId : UInt64} {payload header data : Bytes}
  {operation : String} {log : PipeLog} {result : Int} {answer : Option RpcAnswer}

/-- A diagnostic goes to standard error, which is no event of the session. -/
theorem effect_report {diagnostic : Diagnostic} {done : Unit}
    (run : (report diagnostic).Runs log done) : Effect log [] :=
  effect_call run rfl

/-- Reporting an error makes no event and ends with 1. -/
theorem reportError_spec {response : RpcAnswer}
    (run : (reportError operation response).Runs log result) : Effect log [] ∧ result = 1 := by
  obtain ⟨printed, _, last, one, two, rfl⟩ := run.of_bind
  obtain ⟨rfl, rfl⟩ := two.of_pure
  exact ⟨(effect_report one).append_silent effect_nil, rfl⟩

/-- A request whose answer is looked at in this way ends with 0 only if its status was OK. -/
theorem okOrReport_spec {response : RpcAnswer}
    (run : (okOrReport operation response).Runs log result) :
    Effect log [] ∧ (result = 0 → response.status = codecOk) := by
  rw [okOrReport] at run
  split at run
  next ok =>
    obtain ⟨rfl, rfl⟩ := run.of_pure
    exact ⟨effect_nil, fun _ => ok⟩
  next =>
    obtain ⟨effect, rfl⟩ := reportError_spec run
    exact ⟨effect, fun zero => nomatch zero⟩

/-- The event of a request that the worker answered. -/
theorem effect_rpc (run : (rpc type sessionId payload).Runs log answer) :
    Effect log (events [⟨.rpc type sessionId payload, answer⟩]) := by
  rw [rpc] at run
  split at run
  · obtain ⟨rfl, rfl⟩ := run.of_pure
    cases type <;> exact effect_nil
  · exact effect_call run rfl

/-- The requests whose success is no event. -/
def Wire.MessageType.housekeeping : MessageType → Bool
  | .input | .eos | .output => false
  | _ => true

/-- Housekeeping requests, such as a close or a statistics request, make no event. -/
theorem effect_simpleRequest {name : String} (silent : type.housekeeping = true)
    (run : (simpleRequest type sessionId payload name).Runs log result) : Effect log [] := by
  obtain ⟨asked, answer, rest, one, two, rfl⟩ := run.of_bind
  have request : Effect asked [] := by
    have effect := effect_rpc one
    cases type <;> first | exact effect | contradiction
  cases answer with
  | none =>
      obtain ⟨rfl, rfl⟩ := two.of_pure
      exact request.append_silent effect_nil
  | some response => exact request.append_silent (okOrReport_spec two).1

/-- Asking for a key frame makes no event, whatever the answer is. -/
theorem effect_requestKeyframe (run : (requestKeyframe sessionId).Runs log result) :
    Effect log [] :=
  effect_simpleRequest rfl run

/-- Reporting the statistics makes no event, whatever the answer is. -/
theorem effect_reportSessionStats (run : (reportSessionStats sessionId).Runs log result) :
    Effect log [] := by
  obtain ⟨asked, answer, rest, one, two, rfl⟩ := run.of_bind
  have request : Effect asked [] := effect_rpc one
  refine request.append_silent ?_
  cases answer with
  | none =>
      obtain ⟨rfl, rfl⟩ := two.of_pure
      exact effect_nil
  | some response =>
      dsimp only at two
      split at two
      · obtain ⟨printed, _, last, printing, done, rfl⟩ := two.of_bind
        obtain ⟨rfl, rfl⟩ := done.of_pure
        exact (effect_report printing).append_silent effect_nil
      · exact (reportError_spec two).1

theorem effect_closeSession {done : Unit} (run : (Pipe.closeSession sessionId).Runs log done) :
    Effect log [] := by
  rw [Pipe.closeSession] at run
  split at run
  · obtain ⟨rfl, _⟩ := run.of_pure
    exact effect_nil
  · obtain ⟨asked, result, rest, one, two, rfl⟩ := run.of_bind
    obtain ⟨rfl, _⟩ := two.of_pure
    exact (effect_simpleRequest rfl one).append_silent effect_nil

/-- Nothing runs out of fuel to an end, so that a run that has ended has not. -/
theorem not_runs_exhausted {α : Type} (log : PipeLog) (value : α) :
    ¬(Pipe.exhausted : Pipe α).Runs log value := by
  intro run
  cases run with
  | ask _ _ impossible _ => exact nomatch impossible

/-- What an answer to an input or to an end-of-stream request is. -/
theorem effect_queued {response : RpcAnswer} (queued : type = .input ∨ type = .eos)
    (run : (rpc type sessionId payload).Runs log (some response)) :
    Effect log (if response.status = codecOk then [.accepted type payload] else []) := by
  have effect := effect_rpc run
  split
  next ok => rcases queued with rfl | rfl <;> simpa [events, event?, ok] using effect
  next refused => rcases queued with rfl | rfl <;> simpa [events, event?, refused] using effect

/-- A request that is retried until the worker takes it is accepted exactly once. -/
theorem effect_retryRequest (queued : type = .input ∨ type = .eos)
    (run : (retryRequest fuel type sessionId payload operation).Runs log result) :
    result = 0 → Effect log [.accepted type payload] := by
  refine run.loop_invariant (fun log _ => Effect log [])
    (fun log result => result = 0 → Effect log [.accepted type payload])
    not_runs_exhausted effect_nil ?_ ?_
  · -- Every round that goes on was answered with AGAIN, which is no event.
    intro before _ silent log _ round
    obtain ⟨asked, answer, rest, one, two, rfl⟩ := round.of_bind
    refine silent.append_silent ?_
    cases answer with
    | none => exact nomatch two.of_pure.2
    | some response =>
        have request := effect_queued queued one
        dsimp only at two
        split at two
        next again =>
          obtain ⟨slept, _, last, sleep, done, rfl⟩ := two.of_bind
          obtain ⟨rfl, _⟩ := done.of_pure
          rw [again, if_neg (by decide)] at request
          exact request.append_silent ((effect_call sleep rfl).append_silent effect_nil)
        next =>
          obtain ⟨_, _, _, _, done, _⟩ := two.of_bind
          exact nomatch done.of_pure.2
  · intro before _ silent log result round zero
    obtain ⟨asked, answer, rest, one, two, rfl⟩ := round.of_bind
    refine silent.silent_append ?_
    cases answer with
    | none =>
        cases two.of_pure.2
        contradiction
    | some response =>
        have request := effect_queued queued one
        dsimp only at two
        split at two
        next =>
          obtain ⟨_, _, _, _, done, _⟩ := two.of_bind
          exact nomatch done.of_pure.2
        next =>
          obtain ⟨printed, _, last, printing, done, rfl⟩ := two.of_bind
          obtain ⟨rfl, same⟩ := done.of_pure
          cases same
          obtain ⟨silence, ok⟩ := okOrReport_spec printing
          rw [if_pos (ok zero)] at request
          exact request.append_silent (silence.append_silent effect_nil)

/-- A record that is queued was accepted once, after any number of turns in which the codec was busy. -/
theorem effect_queueInput {supported : Bool}
    (run : (queueInput fuel supported sessionId header data).Runs log result) (zero : result = 0) :
    Effect log [.accepted .input (header ++ data)] := by
  rw [queueInput] at run
  split at run
  · obtain ⟨_, _, _, _, done, _⟩ := run.of_bind
    cases done.of_pure.2
    contradiction
  split at run
  · cases run.of_pure.2
    contradiction
  obtain ⟨asked, block, rest, one, two, rfl⟩ := run.of_bind
  cases block with
  | none =>
      cases two.of_pure.2
      contradiction
  | some block =>
      have allocated : Effect asked [] := effect_call one rfl
      exact allocated.silent_append (effect_retryRequest (.inl rfl) two zero)

/-- An end that is queued was accepted once, with its time and no data. -/
theorem effect_queueEos {pts : UInt64} (run : (queueEos fuel sessionId pts).Runs log result)
    (zero : result = 0) :
    Effect log [.accepted .eos (putU64 (List.replicate 8 0) 0 pts)] :=
  effect_retryRequest (.inr rfl) run zero

end Requests

/-! ### Output -/

/-- The length field of an output record is the length of its data. -/
def OutputWellFormed (payload : Bytes) : Prop :=
  payload.length = 16 + (getU32 payload 12).toNat

/-- The ways `drain_output` ends: a record was received and written, nothing was received, or the
session has failed. -/
inductive Drained (state : PipeOutputState) (log : PipeLog) : Int → PipeOutputState → Prop where
  | record (payload : Bytes) (effect : Effect log [.received payload, .wrote payload])
      (wellFormed : OutputWellFormed payload)
      (ordered : isFrame (getU32 payload 8) (getU32 payload 12) = true → state.havePts = true →
        state.previousPts ≤ getU64 payload 0) : Drained state log 0 (state.written payload)
  | idle {result : Int} (effect : Effect log []) (positive : result = 1 ∨ result = 2) :
      Drained state log result state
  | failed {result : Int} {next : PipeOutputState} (outside : result < 0 ∨ 2 < result) :
      Drained state log result next

section Output

variable {sessionId : UInt64} {timeoutMs : UInt32} {payload : Bytes}
  {state next : PipeOutputState} {log : PipeLog} {result : Int}

/-- What `writeOutput` adds to the log of the request it follows: the record is written to standard
output as it came, and counted if it is a picture. -/
theorem drained_writeOutput {asked : PipeLog} (request : Effect asked [.received payload])
    (wellFormed : OutputWellFormed payload)
    (ordered : isFrame (getU32 payload 8) (getU32 payload 12) = true → state.havePts = true →
      state.previousPts ≤ getU64 payload 0)
    (run : (writeOutput payload state).Runs log (result, next)) :
    Drained state (asked ++ log) result next := by
  obtain ⟨written, count, rest, one, two, rfl⟩ := run.of_bind
  split at two
  · cases two.of_pure.2
    exact .failed (by decide)
  next whole =>
    obtain ⟨synced, flushed, last, flush, done, rfl⟩ := two.of_bind
    cases flushed with
    | false =>
        cases done.of_pure.2
        exact .failed (by decide)
    | true =>
        obtain ⟨rfl, same⟩ := done.of_pure
        cases same
        have output : Effect written [.wrote payload] := by
          simpa [events, event?, not_not.mp whole] using effect_call one rfl
        have synchronized : Effect synced [] := effect_call flush rfl
        refine .record payload ?_ wellFormed ordered
        exact request.append (output.append_silent (synchronized.append_silent effect_nil))

/-- A payload that fits, has a header and says its own length is a well-formed record. -/
theorem outputWellFormed_of_length (fits : payload.length ≤ dscwMaxPayload.toNat)
    (long : 16 ≤ payload.length)
    (same : getU32 payload 12 = UInt32.ofNat payload.length - 16) : OutputWellFormed payload := by
  have length := Framing.toNat_ofNat_length fits
  have above : (16 : UInt32) ≤ UInt32.ofNat payload.length := by
    rw [UInt32.le_iff_toNat_le, length]
    exact long
  rw [OutputWellFormed, same, UInt32.toNat_sub_of_le _ _ above, length]
  exact (Nat.add_sub_cancel' long).symm

/-- A record that is received is written whole and counted when it is well-formed and in its order, and
refused otherwise. -/
theorem drained_drainRecord {asked : PipeLog} (fits : payload.length ≤ dscwMaxPayload.toNat)
    (request : Effect asked [.received payload])
    (run : (drainRecord payload state).Runs log (result, next)) :
    Drained state (asked ++ log) result next := by
  rw [drainRecord] at run
  split at run
  · obtain ⟨_, _, _, _, done, _⟩ := run.of_bind
    cases done.of_pure.2
    exact .failed (by decide)
  next long =>
  split at run
  · obtain ⟨_, _, _, _, done, _⟩ := run.of_bind
    cases done.of_pure.2
    exact .failed (by decide)
  next same =>
  split at run
  · obtain ⟨_, _, _, _, done, _⟩ := run.of_bind
    cases done.of_pure.2
    exact .failed (by decide)
  next ordered =>
  refine drained_writeOutput request
    (outputWellFormed_of_length fits (Nat.le_of_not_lt long) (not_not.mp same)) ?_ run
  intro frame have'
  exact UInt64.not_lt.mp fun later => ordered ⟨frame, have', later⟩

theorem effect_output {response : RpcAnswer} {request : Bytes}
    (run : (rpc .output sessionId request).Runs log (some response)) :
    Effect log (if response.status = codecOk then [.received response.payload] else []) := by
  have effect := effect_rpc run
  split
  next ok => simpa [events, event?, ok] using effect
  next refused => simpa [events, event?, refused] using effect

/-- Asking for output delivers one record, or nothing, and the state of the output follows what was
delivered. -/
theorem drained_drainOutput (run : (drainOutput sessionId timeoutMs state).Runs log (result, next)) :
    Drained state log result next := by
  obtain ⟨asked, answer, rest, one, two, rfl⟩ := run.of_bind
  cases answer with
  | none =>
      cases two.of_pure.2
      exact .failed (by decide)
  | some response =>
      have request := effect_output one
      dsimp only at two
      split at two
      next again =>
        obtain ⟨rfl, same⟩ := two.of_pure
        cases same
        rw [again, if_neg (by decide)] at request
        exact .idle (request.append_silent effect_nil) (.inl rfl)
      split at two
      next changed =>
        rw [changed, if_neg (by decide)] at request
        rw [drainFormat] at two
        split at two
        · obtain ⟨printed, _, last, printing, done, rfl⟩ := two.of_bind
          obtain ⟨rfl, same⟩ := done.of_pure
          cases same
          exact .idle (request.append_silent ((effect_report printing).append_silent effect_nil))
            (.inr rfl)
        · obtain ⟨_, _, _, _, done, _⟩ := two.of_bind
          cases done.of_pure.2
          exact .failed (by decide)
      split at two
      · obtain ⟨_, _, _, failing, done, _⟩ := two.of_bind
        cases done.of_pure.2
        rw [(reportError_spec failing).2]
        exact .failed (by decide)
      next ok =>
        rw [if_pos (not_not.mp ok)] at request
        exact drained_drainRecord response.fits request two

end Output

/-! ### Input -/

section Input

variable {session : PipeSession} {log : PipeLog} {data : Bytes}

/-- What a part of the client that reads standard input does: no event, and `data` is taken off the
stream. -/
structure Reads (log : PipeLog) (data : Bytes) : Prop where
  silent : events log = []
  taken : ∀ before after, Stdin.Serves before log after →
    before.remaining = data ++ after.remaining

theorem Effect.reads {log : PipeLog} (effect : Effect log []) : Reads log [] := by
  refine ⟨effect.events, fun before after serves => ?_⟩
  rw [effect.still before after serves]
  rfl

/-- What is read in sequence is what the first part reads and then what the second does. -/
theorem Reads.append {first second : PipeLog} {data more : Bytes} (one : Reads first data)
    (two : Reads second more) : Reads (first ++ second) (data ++ more) := by
  refine ⟨?_, fun before after serves => ?_⟩
  · rw [events_append, one.silent, two.silent]
    rfl
  · obtain ⟨middle, here, there⟩ := Stdin.serves_append.mp serves
    rw [one.taken before middle here, two.taken middle after there, List.append_assoc]

/-- A call of `fread` reads what it returns. -/
theorem reads_fread {length : Nat} {answer : (PipeCall.fread length).Answer}
    (run : (Pipe.call (.fread length)).Runs log answer) : Reads log answer.val := by
  rw [run.of_call]
  refine ⟨rfl, ?_⟩
  rintro before after ⟨middle, step, rfl⟩
  exact step.1

theorem reads_ferror {answer : Bool} (run : (Pipe.call .ferror).Runs log answer) :
    Reads log [] := by
  rw [run.of_call]
  refine ⟨rfl, ?_⟩
  rintro before after ⟨middle, ⟨rfl, _⟩, rfl⟩
  rfl

/-- An empty read that is no error is the end of the file. -/
theorem endOfFile_of_fread {filled asked : PipeLog} {length : Nat}
    {answer : (PipeCall.fread length).Answer} (wanted : 0 < length)
    (read : (Pipe.call (.fread length)).Runs filled answer) (empty : answer.val.length = 0)
    (ask : (Pipe.call .ferror).Runs asked false) {before after : Stdin}
    (serves : before.Serves (filled ++ asked) after) : before.remaining = [] := by
  rw [read.of_call, ask.of_call] at serves
  obtain ⟨middle, ⟨taken, short, _⟩, _, ⟨_, noError⟩, _⟩ := serves
  rw [taken, List.eq_nil_of_length_eq_zero empty]
  rcases short (empty ▸ wanted) with atEnd | failed
  · exact atEnd
  · rw [failed] at noError
    contradiction

/-- What `read_record_header` comes back with. -/
def HeaderAgrees (log : PipeLog) : HeaderRead → Prop
  | .failed => True
  | .endOfFile => Reads log [] ∧ ∀ before after, Stdin.Serves before log after →
      before.remaining = []
  | .header bytes => bytes.length = 16 ∧ Reads log bytes

/-- The header that is read is the next sixteen bytes of standard input, or what is left when they are
fewer. -/
theorem headerAgrees_readRecordHeader {read : HeaderRead} (run : readRecordHeader.Runs log read) :
    HeaderAgrees log read := by
  refine run.loop_invariant (fun log header => Reads log header ∧ header.length ≤ 16) HeaderAgrees
    not_runs_exhausted ⟨effect_nil.reads, Nat.zero_le _⟩ ?_ ?_
  · rintro before header ⟨sofar, short⟩ log next round
    rw [readHeaderStep] at round
    split at round
    · obtain ⟨filled, answer, rest, one, two, rfl⟩ := round.of_bind
      split at two
      · obtain ⟨_, _, _, _, done, _⟩ := two.of_bind
        exact nomatch done.of_pure.2
      · obtain ⟨rfl, same⟩ := two.of_pure
        cases same
        refine ⟨sofar.append ?_, ?_⟩
        · rw [List.append_nil]
          exact reads_fread one
        · have bound := answer.property
          rw [List.length_append]
          omega
    · exact nomatch round.of_pure.2
  · rintro before header ⟨sofar, short⟩ log read round
    rw [readHeaderStep] at round
    split at round
    next missing =>
      obtain ⟨filled, answer, rest, one, two, rfl⟩ := round.of_bind
      split at two
      next none =>
        obtain ⟨asked, error, last, ask, done, rfl⟩ := two.of_bind
        obtain ⟨rfl, same⟩ := done.of_pure
        cases same
        cases error with
        | true => exact trivial
        | false =>
            simp only [Bool.false_eq_true, if_false]
            split
            next fresh =>
              rw [List.eq_nil_of_length_eq_zero fresh] at sofar
              rw [List.append_nil]
              have nothing : Reads filled [] :=
                List.eq_nil_of_length_eq_zero none ▸ reads_fread one
              refine ⟨sofar.append (nothing.append (reads_ferror ask)), fun earlier later serves => ?_⟩
              obtain ⟨middle, here, there⟩ := Stdin.serves_append.mp serves
              rw [sofar.taken earlier middle here]
              exact endOfFile_of_fread (Nat.sub_pos_of_lt missing) one none ask there
            next => trivial
      next => exact nomatch two.of_pure.2
    next full =>
      obtain ⟨rfl, same⟩ := round.of_pure
      cases same
      rw [List.append_nil]
      exact ⟨Nat.le_antisymm short (Nat.le_of_not_lt full), sofar⟩

/-- The data of a record is as long as was asked for, and it is what the log has read; a short read is a
failure and not a record. -/
theorem reads_readRecordData {length : UInt32}
    (run : (readRecordData length).Runs log (some data)) :
    data.length = length.toNat ∧ Reads log data := by
  rw [readRecordData] at run
  split at run
  next zero =>
    obtain ⟨rfl, same⟩ := run.of_pure
    cases same
    exact ⟨by rw [zero]; rfl, effect_nil.reads⟩
  next =>
    obtain ⟨allocated, block, rest, one, two, rfl⟩ := run.of_bind
    cases block with
    | none =>
        obtain ⟨_, _, _, _, done, _⟩ := two.of_bind
        exact nomatch done.of_pure.2
    | some block =>
        obtain ⟨filled, answer, last, read, done, rfl⟩ := two.of_bind
        split at done
        next whole =>
          obtain ⟨rfl, same⟩ := done.of_pure
          cases same
          have silent : Effect allocated [] := effect_call one rfl
          rw [List.append_nil]
          exact ⟨whole, silent.reads.append (reads_fread read)⟩
        next =>
          obtain ⟨_, _, _, _, rest, _⟩ := done.of_bind
          exact nomatch rest.of_pure.2

/-- What the first part of an iteration comes back with. -/
def RecordAgrees (log : PipeLog) : RecordRead → Prop
  | .failed => True
  | .endOfFile => Reads log [] ∧ ∀ before after, Stdin.Serves before log after →
      before.remaining = []
  | .record header data => header.length = 16 ∧ data.length = (getU32 header 12).toNat ∧
      Reads log (header ++ data)

/-- The record that is read is the next header and the data whose length it gives. -/
theorem recordAgrees_readRecord {read : RecordRead} (run : readRecord.Runs log read) :
    RecordAgrees log read := by
  obtain ⟨headed, header, rest, one, two, rfl⟩ := run.of_bind
  have agrees := headerAgrees_readRecordHeader one
  cases header with
  | failed =>
      obtain ⟨_, _, _, _, done, _⟩ := two.of_bind
      cases done.of_pure.2
      trivial
  | endOfFile =>
      obtain ⟨rfl, same⟩ := two.of_pure
      cases same
      rw [List.append_nil]
      exact agrees
  | header bytes =>
      obtain ⟨length, reads⟩ := agrees
      dsimp only at two
      split at two
      · obtain ⟨_, _, _, _, done, _⟩ := two.of_bind
        cases done.of_pure.2
        trivial
      · obtain ⟨filled, answer, last, read, done, rfl⟩ := two.of_bind
        cases answer with
        | none =>
            cases done.of_pure.2
            trivial
        | some data =>
            obtain ⟨rfl, same⟩ := done.of_pure
            cases same
            obtain ⟨whole, more⟩ := reads_readRecordData read
            rw [List.append_nil]
            exact ⟨length, whole, reads.append more⟩

/-- What is queued for the data of a record: in encode mode its conversion into the layout of the
encoder, written over a fresh block, else the data itself. -/
def CodecInput (session : PipeSession) (data input : Bytes) : Prop :=
  if session.mode = dscbModeEncode then
    UInt64.ofNat data.length = session.width.toUInt64 * session.height.toUInt64 * 3 / 2 ∧
      ∃ block : Memory, convertI420ForEncoder session.colorFormat session.width session.height data
        (block.load 0 data.length) = some input
  else input = data

/-- The samples of two chroma planes of this size behind a luma plane, in turns. -/
def chromaPairs (ySize chromaSize count : Nat) (i420 : Bytes) : Bytes :=
  (List.range count).flatMap fun index =>
    [i420.getD (ySize + index) 0, i420.getD (ySize + chromaSize + index) 0]

/-- Interleaved chroma has two bytes for each pair of samples. -/
theorem length_chromaPairs (ySize chromaSize count : Nat) (i420 : Bytes) :
    (chromaPairs ySize chromaSize count i420).length = 2 * count := by
  rw [chromaPairs, List.length_flatMap]
  simp
  omega

/-- The loop leaves the luma plane and what stands behind the chroma samples. -/
theorem interleaveChroma_eq {ySize chromaSize : Nat} {luma rest : Bytes} (i420 : Bytes)
    (length : luma.length = ySize) (room : 2 * chromaSize ≤ rest.length) :
    interleaveChroma ySize chromaSize i420 (luma ++ rest) =
      luma ++ chromaPairs ySize chromaSize chromaSize i420 ++ rest.drop (2 * chromaSize) := by
  have rounds : ∀ count ≤ chromaSize,
      (List.range count).foldl (fun converted index =>
        (converted.set (ySize + index * 2) (i420.getD (ySize + index) 0)).set
          (ySize + index * 2 + 1) (i420.getD (ySize + chromaSize + index) 0)) (luma ++ rest) =
      luma ++ chromaPairs ySize chromaSize count i420 ++ rest.drop (2 * count) := by
    intro count
    induction count with
    | zero => simp [chromaPairs]
    | succ count ih =>
        intro bound
        have front : (luma ++ chromaPairs ySize chromaSize count i420).length =
            ySize + count * 2 := by
          rw [List.length_append, length_chromaPairs, length]
          omega
        -- the two samples that this round writes over
        obtain ⟨first, second, behind⟩ : ∃ first second,
            rest.drop (2 * count) = first :: second :: rest.drop (2 * (count + 1)) := by
          refine ⟨rest[2 * count], rest[2 * count + 1], ?_⟩
          rw [List.drop_eq_getElem_cons (by omega), List.drop_eq_getElem_cons (by omega)]
          rfl
        have pairs : chromaPairs ySize chromaSize (count + 1) i420 =
            chromaPairs ySize chromaSize count i420 ++
              [i420.getD (ySize + count) 0, i420.getD (ySize + chromaSize + count) 0] := by
          simp only [chromaPairs, List.range_succ, List.flatMap_append, List.flatMap_singleton]
        rw [List.range_succ, List.foldl_append, ih (by omega), List.foldl_cons, List.foldl_nil,
          behind, pairs, List.set_append_right _ _ (by omega), List.set_append_right _ _ (by omega)]
        simp [front]
  exact rounds chromaSize (Nat.le_refl _)

/-- The layout of what an encoder gets: the luma plane, and behind it the chroma samples in turns for a
semiplanar encoder; for a planar one the planes of the record as they are. -/
theorem CodecInput.layout {input : Bytes} (codec : CodecInput session data input)
    (encode : session.mode = dscbModeEncode) {ySize : Nat}
    (size : ySize = session.width.toNat * session.height.toNat)
    (fits : ySize + 2 * (ySize / 4) ≤ data.length) :
    (session.colorFormat = dscbColorYuv420Semiplanar → ∃ rest,
      input = data.take ySize ++ chromaPairs ySize (ySize / 4) (ySize / 4) data ++ rest) ∧
    (session.colorFormat ≠ dscbColorYuv420Semiplanar →
      (session.colorFormat = dscbColorYuv420Planar ∨
        session.colorFormat = dscbColorYuv420Flexible) ∧ input = data) := by
  rw [CodecInput, if_pos encode] at codec
  obtain ⟨-, block, converted⟩ := codec
  rw [convertI420ForEncoder, ← size] at converted
  split at converted
  next semiplanar =>
    refine ⟨fun _ => ?_, fun planar => absurd semiplanar planar⟩
    cases converted
    have luma : (data.take ySize).length = ySize := by
      rw [List.length_take]
      omega
    have room : 2 * (ySize / 4) ≤ ((block.load 0 data.length).drop ySize).length := by
      rw [List.length_drop, Memory.length_load]
      omega
    refine ⟨_, Eq.trans ?_ (interleaveChroma_eq data luma room)⟩
    rw [overwrite, List.take_zero, List.nil_append, Nat.zero_add, luma]
  next planar =>
    refine ⟨fun semiplanar => absurd semiplanar planar, fun _ => ?_⟩
    split at converted
    · cases converted
    next known =>
      cases converted
      exact ⟨by tauto, rfl⟩

/-- Converting a frame for the encoder makes no event, and the codec gets the layout it has asked for.
-/
theorem effect_codecInput {input : Bytes}
    (run : (codecInput session data).Runs log (some input)) :
    Effect log [] ∧ CodecInput session data input := by
  rw [codecInput] at run
  rw [CodecInput]
  split at run
  next encode =>
    rw [if_pos encode]
    split at run
    · obtain ⟨_, _, _, _, done, _⟩ := run.of_bind
      exact nomatch done.of_pure.2
    next packed =>
      obtain ⟨allocated, block, rest, one, two, rfl⟩ := run.of_bind
      cases block with
      | none => exact nomatch two.of_pure.2
      | some block =>
          dsimp only at two
          split at two
          · obtain ⟨_, _, _, _, done, _⟩ := two.of_bind
            exact nomatch done.of_pure.2
          next converted same =>
            obtain ⟨rfl, queued⟩ := two.of_pure
            cases queued
            have silent : Effect allocated [] := effect_call one rfl
            exact ⟨silent.append_silent effect_nil, not_not.mp packed, block, same⟩
  next decode =>
    obtain ⟨rfl, same⟩ := run.of_pure
    cases same
    rw [if_neg decode]
    exact ⟨effect_nil, rfl⟩

end Input

end DawnShell
