/-
Module: DawnShell.Proofs.RpcDispatch
Layer: Proofs
Purpose: How often the worker dispatches a published request.  A request is dispatched once per wake-up
  token, and the client hands out one token per published sequence number; the token is tied to its
  request as long as the client publishes only when no older token is left.  Where it does not, the
  worker may dispatch the same request twice.
Trusted boundary: none
Main exports: PublishesQuietly, TokenInvariant, tokenInvariant_step, BeginsQuietly,
  dispatched_at_most_once, dispatched_twice
-/
import DawnShell.Codec.Rpc

namespace DawnShell

open Wire Transition

/-! ### Wake-up tokens -/

/-- The published request the worker is working on, from its load of the sequence number to its store
of the response sequence number. -/
def WorkerPhase.carried : WorkerPhase → Option Nat
  | .loadBytes loaded _ | .readHeader loaded _ _ | .dispatch loaded _ _ _ _
  | .writePayload loaded _ _ | .writeHeader loaded _ _ | .storeBytes loaded _ _
  | .storeSequence loaded _ _ => some loaded
  | .idle | .loadSequence | .signal | .stopped => none

/-- The worker has loaded a sequence number and not yet dispatched. -/
def WorkerPhase.undispatched : WorkerPhase → Bool
  | .loadBytes .. | .readHeader .. | .dispatch .. => true
  | _ => false

/-- The worker has taken a token and not yet loaded a sequence number. -/
def WorkerPhase.waking : WorkerPhase → Nat
  | .loadSequence => 1
  | _ => 0

/-- The client has published and not yet handed out the token. -/
def ClientPhase.signalling : ClientPhase → Nat
  | .signal .. => 1
  | _ => 0

/-- The wake-ups that are still to come. -/
def RpcState.tokens (state : RpcState) : Nat :=
  state.requestEvents + state.worker.waking + state.client.signalling

/-- The client stores a sequence number only when no wake-up is pending and the worker is not between
its wake-up and its load of the sequence number. -/
def PublishesQuietly (state : RpcState) (label : RpcLabel) : Prop :=
  label = .storeSequence → state.requestEvents = 0 ∧ state.worker ≠ .loadSequence

/-- At most one token is left, and it belongs to the last request published, which nobody has touched;
dispatches come in the order of publication. -/
structure TokenInvariant (state : RpcState) : Prop where
  single : state.tokens ≤ 1
  ordered : (state.dispatches.map DispatchRecord.loaded).Pairwise (· < ·)
  published : ∀ record ∈ state.dispatches, record.loaded ≤ state.published
  responded : state.responseSerial ≤ state.published
  carried : ∀ loaded, state.worker.carried = some loaded →
    loaded ≤ state.published ∧ state.responseSerial < loaded ∧
      ∀ record ∈ state.dispatches, record.loaded ≤ loaded
  undispatched : ∀ loaded, state.worker.carried = some loaded → state.worker.undispatched = true →
    ∀ record ∈ state.dispatches, record.loaded < loaded
  fresh : state.tokens = 1 → state.responseSerial < state.published ∧
    (∀ record ∈ state.dispatches, record.loaded < state.published) ∧
    ∀ loaded, state.worker.carried = some loaded → loaded < state.published

section Tokens

variable {state next : RpcState} {label : RpcLabel}

/-- A step that publishes, dispatches and answers nothing and adds no token keeps the invariant. -/
theorem TokenInvariant.frame (invariant : TokenInvariant state)
    (dispatches : next.dispatches = state.dispatches) (published : next.published = state.published)
    (responseSerial : next.responseSerial = state.responseSerial)
    (carried : ∀ loaded, next.worker.carried = some loaded → state.worker.carried = some loaded)
    (undispatched : next.worker.undispatched = true → state.worker.undispatched = true)
    (tokens : next.tokens ≤ state.tokens) : TokenInvariant next := by
  have single := invariant.single
  constructor
  · omega
  · rw [dispatches]
    exact invariant.ordered
  · rw [dispatches, published]
    exact invariant.published
  · rw [responseSerial, published]
    exact invariant.responded
  · intro loaded carries
    rw [dispatches, published, responseSerial]
    exact invariant.carried loaded (carried loaded carries)
  · intro loaded carries pending
    rw [dispatches]
    exact invariant.undispatched loaded (carried loaded carries) (undispatched pending)
  · intro one
    rw [dispatches, published, responseSerial]
    obtain ⟨response, records, older⟩ := invariant.fresh (by omega)
    exact ⟨response, records, fun loaded carries => older loaded (carried loaded carries)⟩

theorem TokenInvariant.clientFrame (invariant : TokenInvariant state)
    (dispatches : next.dispatches = state.dispatches) (published : next.published = state.published)
    (responseSerial : next.responseSerial = state.responseSerial)
    (worker : next.worker = state.worker) (tokens : next.tokens ≤ state.tokens) :
    TokenInvariant next :=
  invariant.frame dispatches published responseSerial (fun _ carries => worker ▸ carries)
    (fun pending => worker ▸ pending) tokens

/-- Publishing a request while no wake-up is pending keeps the token, which the signal is going to
carry. -/
theorem tokenInvariant_storeSequence {out : Outgoing} {sequence : UInt32}
    (invariant : TokenInvariant state) (noEvents : state.requestEvents = 0)
    (notWaking : state.worker ≠ .loadSequence) :
    TokenInvariant { state with
      client := .signal out sequence, requestSequence := sequence
      published := state.published + 1 } := by
  have asleep : state.worker.waking = 0 := by
    cases worker : state.worker with
    | loadSequence => exact absurd worker notWaking
    | _ => rfl
  have responded := invariant.responded
  constructor
  · simp [RpcState.tokens, noEvents, asleep, ClientPhase.signalling]
  · exact invariant.ordered
  · exact fun record member => Nat.le_succ_of_le (invariant.published record member)
  · exact Nat.le_succ_of_le responded
  · intro loaded carries
    obtain ⟨below, response, records⟩ := invariant.carried loaded carries
    exact ⟨Nat.le_succ_of_le below, response, records⟩
  · exact invariant.undispatched
  · intro _
    exact ⟨Nat.lt_succ_of_le responded,
      fun record member => Nat.lt_succ_of_le (invariant.published record member),
      fun loaded carries => Nat.lt_succ_of_le (invariant.carried loaded carries).1⟩

/-- A worker that loads the number turns its wake-up into the request it carries. -/
theorem tokenInvariant_loadSequence (invariant : TokenInvariant state)
    (phase : state.worker = .loadSequence) :
    TokenInvariant { state with
      worker := .loadBytes state.published state.requestSequence } := by
  have single := invariant.single
  rw [RpcState.tokens, phase] at single
  have one : state.tokens = 1 := by
    rw [RpcState.tokens, phase]
    simp only [WorkerPhase.waking] at single ⊢
    omega
  obtain ⟨response, records, _⟩ := invariant.fresh one
  constructor
  · simp only [RpcState.tokens, WorkerPhase.waking] at single ⊢
    omega
  · exact invariant.ordered
  · exact invariant.published
  · exact invariant.responded
  · intro loaded carries
    cases carries
    exact ⟨Nat.le_refl _, response, invariant.published⟩
  · intro loaded carries _
    cases carries
    exact records
  · intro another
    simp only [RpcState.tokens, WorkerPhase.waking] at single another
    omega

/-- Dispatching what it carries leaves the worker with the same request, and the list of dispatches
stays in the order of the tokens. -/
theorem tokenInvariant_dispatch {loaded content : Nat} {sequence requestBytes : UInt32}
    {header : Bytes} {reply : Reply} {workerState : WorkerState} {request : Bytes}
    (invariant : TokenInvariant state)
    (phase : state.worker = .dispatch loaded content sequence requestBytes header) :
    TokenInvariant { state with
      worker := .writePayload loaded sequence reply
      workerState := workerState
      dispatches := state.dispatches ++ [⟨loaded, content, request, reply.result⟩] } := by
  have carries : state.worker.carried = some loaded := by rw [phase]; rfl
  have pending : state.worker.undispatched = true := by rw [phase]; rfl
  obtain ⟨below, response, _⟩ := invariant.carried loaded carries
  have older := invariant.undispatched loaded carries pending
  have tokens : state.tokens = state.requestEvents + 0 + state.client.signalling := by
    rw [RpcState.tokens, phase]
    rfl
  constructor
  · exact tokens.symm.trans_le invariant.single
  · rw [List.map_append, List.pairwise_append]
    refine ⟨invariant.ordered, List.pairwise_singleton _ _, ?_⟩
    intro first member second same
    obtain ⟨record, inside, rfl⟩ := List.mem_map.mp member
    rw [List.map_singleton, List.mem_singleton] at same
    rw [same]
    exact older record inside
  · intro record member
    rcases List.mem_append.mp member with before | now
    · exact invariant.published record before
    · rw [List.mem_singleton.mp now]
      exact below
  · exact invariant.responded
  · intro other same
    cases same
    refine ⟨below, response, fun record member => ?_⟩
    rcases List.mem_append.mp member with before | now
    · exact (older record before).le
    · rw [List.mem_singleton.mp now]
  · exact fun _ _ impossible => nomatch impossible
  · intro one
    obtain ⟨fresh, records, last⟩ := invariant.fresh (tokens.trans one)
    refine ⟨fresh, fun record member => ?_, fun other same => ?_⟩
    · rcases List.mem_append.mp member with before | now
      · exact records record before
      · rw [List.mem_singleton.mp now]
        exact last loaded carries
    · cases same
      exact last loaded carries

/-- Storing the response number answers the request, and the worker carries none any more. -/
theorem tokenInvariant_storeResponse {loaded : Nat} {sequence : UInt32} {reply : Reply}
    (invariant : TokenInvariant state)
    (phase : state.worker = .storeSequence loaded sequence reply) :
    TokenInvariant { state with
      worker := .signal, responseSequence := sequence, responseSerial := loaded } := by
  have carries : state.worker.carried = some loaded := by rw [phase]; rfl
  obtain ⟨below, _, _⟩ := invariant.carried loaded carries
  have tokens : state.tokens = state.requestEvents + 0 + state.client.signalling := by
    rw [RpcState.tokens, phase]
    rfl
  constructor
  · exact tokens.symm.trans_le invariant.single
  · exact invariant.ordered
  · exact invariant.published
  · exact below
  · exact fun _ impossible => nomatch impossible
  · exact fun _ impossible => nomatch impossible
  · intro one
    obtain ⟨_, records, last⟩ := invariant.fresh (tokens.trans one)
    exact ⟨last loaded carries, records, fun _ impossible => nomatch impossible⟩

/-- Every step of the client and of the worker keeps the token discipline, as long as the client
publishes quietly. -/
theorem tokenInvariant_step (invariant : TokenInvariant state) (quiet : PublishesQuietly state label)
    (step : RpcStep state label next) : TokenInvariant next := by
  have single := invariant.single
  -- Everything but publishing, loading, dispatching and answering is covered by the two frames.
  cases step with
  | begin call phase | writeHeader phase | writePayload phase | storeBytes phase
  | signalFails phase | wake phase | timeout phase | loadSequence phase | loadBytes phase
  | parseHeader phase | rejectResponse phase | copyPayload phase | mallocFails phase =>
      refine invariant.clientFrame rfl rfl rfl rfl ?_
      simp [RpcState.tokens, phase, ClientPhase.signalling]
  | storeSequence phase =>
      obtain ⟨noEvents, notWaking⟩ := quiet rfl
      exact tokenInvariant_storeSequence invariant noEvents notWaking
  | signal phase =>
      refine invariant.clientFrame rfl rfl rfl rfl ?_
      simp only [RpcState.tokens, phase, ClientPhase.signalling]
      omega
  | workerWake phase ready =>
      refine invariant.frame rfl rfl rfl (fun _ impossible => nomatch impossible)
        (fun impossible => nomatch impossible) ?_
      simp only [RpcState.tokens, phase, WorkerPhase.waking]
      omega
  | workerLoadSequence phase => exact tokenInvariant_loadSequence invariant phase
  | workerLoadBytes phase | workerReadHeader phase =>
      refine invariant.frame rfl rfl rfl (fun loaded carries => ?_) (fun _ => ?_) ?_
      · rw [phase]
        exact carries
      · rw [phase]
        rfl
      · simp [RpcState.tokens, phase, WorkerPhase.waking]
  | workerDispatch phase bounded run => exact tokenInvariant_dispatch invariant phase
  | workerStoreSequence phase => exact tokenInvariant_storeResponse invariant phase
  | workerRefuse phase | workerWritePayload phase | workerWriteHeader phase
  | workerStoreBytes phase =>
      refine invariant.frame rfl rfl rfl (fun loaded carries => ?_)
        (fun impossible => nomatch impossible) ?_
      · rw [phase]
        exact carries
      · simp [RpcState.tokens, phase, WorkerPhase.waking]
  | workerSignal phase =>
      refine invariant.frame rfl rfl rfl (fun _ impossible => nomatch impossible)
        (fun impossible => nomatch impossible) ?_
      simp [RpcState.tokens, phase, WorkerPhase.waking]
  | workerStop =>
      refine invariant.frame rfl rfl rfl (fun _ impossible => nomatch impossible)
        (fun impossible => nomatch impossible) ?_
      simp only [RpcState.tokens, WorkerPhase.waking]
      omega

end Tokens

/-- At first nothing is published and no wake-up is pending. -/
theorem tokenInvariant_initial (workerState : WorkerState) :
    TokenInvariant (.initial workerState) := by
  constructor <;>
    simp [RpcState.initial, RpcState.tokens, WorkerPhase.waking, ClientPhase.signalling,
      WorkerPhase.carried]

/-! ### One request at a time -/

/-- The client is writing a request that it has not published. -/
def ClientPhase.writing : ClientPhase → Bool
  | .writeHeader _ | .writePayload _ | .storeBytes _ | .storeSequence .. => true
  | _ => false

/-- The header of the request in the slot belongs to a request that is not published. -/
def ClientPhase.ahead : ClientPhase → Nat
  | .writePayload _ | .storeBytes _ | .storeSequence .. => 1
  | _ => 0

/-- The worker has yet to read something of the request slot. -/
def RpcState.reading (state : RpcState) : Prop :=
  0 < state.requestEvents ∨ state.worker = .loadSequence ∨ state.worker.undispatched = true

/-- The client begins a call only when no wake-up is pending and the worker is not between its wake-up
and the end of a dispatch. -/
def BeginsQuietly (state : RpcState) (label : RpcLabel) : Prop :=
  ∀ call, label = .begin call → ¬state.reading

/-- While the worker has something to read, the slot holds the last request published. -/
structure OneAtATime (state : RpcState) : Prop where
  written : state.written = state.published + state.client.ahead
  still : state.reading → state.client.writing = false
  carried : ∀ loaded, state.worker.carried = some loaded → state.worker.undispatched = true →
    loaded = state.published
  content : ∀ loaded content sequence requestBytes header,
    state.worker = .dispatch loaded content sequence requestBytes header → content = loaded
  dispatched : ∀ record ∈ state.dispatches, record.content = record.loaded

section OneAtATime

variable {state next : RpcState} {label : RpcLabel}

/-- Only a client that is writing is ahead of what it has published. -/
theorem ahead_of_not_writing {phase : ClientPhase} (still : phase.writing = false) :
    phase.ahead = 0 := by
  cases phase <;> first | rfl | exact nomatch still

/-- A step of the client that leaves the slot and the worker alone. -/
theorem OneAtATime.clientFrame (invariant : OneAtATime state)
    (worker : next.worker = state.worker) (dispatches : next.dispatches = state.dispatches)
    (published : next.published = state.published)
    (written : next.written = next.published + next.client.ahead)
    (still : next.reading → next.client.writing = false) : OneAtATime next := by
  refine ⟨written, still, ?_, ?_, ?_⟩
  · rw [worker, published]
    exact invariant.carried
  · rw [worker]
    exact invariant.content
  · rw [dispatches]
    exact invariant.dispatched

/-- A step of the worker that does not read the slot. -/
theorem OneAtATime.workerFrame (invariant : OneAtATime state)
    (client : next.client = state.client) (published : next.published = state.published)
    (written : next.written = state.written) (dispatches : next.dispatches = state.dispatches)
    (reading : next.reading → state.reading) (done : next.worker.undispatched = false) :
    OneAtATime next := by
  refine ⟨?_, ?_, ?_, ?_, ?_⟩
  · rw [written, published, client]
    exact invariant.written
  · intro busy
    rw [client]
    exact invariant.still (reading busy)
  · intro _ _ pending
    rw [done] at pending
    contradiction
  · intro loaded content sequence requestBytes header phase
    rw [phase] at done
    contradiction
  · rw [dispatches]
    exact invariant.dispatched

/-- While the client is writing, the worker has nothing to read. -/
theorem OneAtATime.not_reading (invariant : OneAtATime state)
    (writing : state.client.writing = true) : ¬state.reading := by
  intro busy
  rw [invariant.still busy] at writing
  contradiction

/-- Every step that keeps the condition leaves client and worker at one request at a time: a call begins
only when the worker has nothing left to read. -/
theorem oneAtATime_step (invariant : OneAtATime state) (quiet : BeginsQuietly state label)
    (step : RpcStep state label next) : OneAtATime next := by
  have written := invariant.written
  cases step with
  | begin call phase =>
      refine invariant.clientFrame rfl rfl rfl ?_ (fun busy => absurd busy (quiet call rfl))
      simpa [phase, ClientPhase.ahead] using written
  | writeHeader phase =>
      have writing : state.client.writing = true := by rw [phase]; rfl
      refine invariant.clientFrame rfl rfl rfl ?_
        (fun busy => absurd busy (invariant.not_reading writing))
      simpa [phase, ClientPhase.ahead] using written
  | writePayload phase | storeBytes phase =>
      have writing : state.client.writing = true := by rw [phase]; rfl
      refine invariant.clientFrame rfl rfl rfl ?_
        (fun busy => absurd busy (invariant.not_reading writing))
      simpa [phase, ClientPhase.ahead] using written
  | storeSequence phase =>
      have writing : state.client.writing = true := by rw [phase]; rfl
      have idle := invariant.not_reading writing
      refine ⟨?_, fun busy => absurd busy idle, ?_, ?_, invariant.dispatched⟩
      · simpa [phase, ClientPhase.ahead] using written
      · exact fun _ _ pending => absurd (.inr (.inr pending)) idle
      · intro loaded content sequence requestBytes header worker
        refine absurd (.inr (.inr ?_)) idle
        rw [show state.worker = _ from worker]
        rfl
  | signal phase | signalFails phase | wake phase | timeout phase | loadSequence phase
  | loadBytes phase | parseHeader phase | rejectResponse phase | copyPayload phase
  | mallocFails phase =>
      refine invariant.clientFrame rfl rfl rfl ?_ (fun _ => rfl)
      simpa [phase, ClientPhase.ahead] using written
  | workerWake phase ready =>
      exact invariant.workerFrame rfl rfl rfl rfl (fun _ => .inl ready) rfl
  | workerLoadSequence phase =>
      refine ⟨written, fun _ => invariant.still (.inr (.inl phase)), ?_, ?_, invariant.dispatched⟩
      · intro loaded carries _
        cases carries
        rfl
      · exact fun _ _ _ _ _ impossible => nomatch impossible
  | workerLoadBytes phase =>
      have pending : state.worker.undispatched = true := by rw [phase]; rfl
      refine ⟨written, fun _ => invariant.still (.inr (.inr pending)), ?_, ?_, invariant.dispatched⟩
      · intro loaded carries _
        exact invariant.carried loaded (by rw [phase]; exact carries) pending
      · exact fun _ _ _ _ _ impossible => nomatch impossible
  | workerReadHeader phase =>
      have pending : state.worker.undispatched = true := by rw [phase]; rfl
      have still := invariant.still (.inr (.inr pending))
      refine ⟨written, fun _ => still, ?_, ?_, invariant.dispatched⟩
      · intro loaded carries _
        exact invariant.carried loaded (by rw [phase]; exact carries) pending
      · intro loaded content sequence requestBytes header same
        cases same
        rw [written, ahead_of_not_writing still]
        exact (invariant.carried _ (by rw [phase]; rfl) pending).symm
  | workerDispatch phase bounded run =>
      have pending : state.worker.undispatched = true := by rw [phase]; rfl
      refine ⟨written, fun _ => invariant.still (.inr (.inr pending)), ?_, ?_, ?_⟩
      · exact fun _ _ impossible => nomatch impossible
      · exact fun _ _ _ _ _ impossible => nomatch impossible
      intro record member
      rcases List.mem_append.mp member with before | now
      · exact invariant.dispatched record before
      · rw [List.mem_singleton.mp now]
        exact invariant.content _ _ _ _ _ phase
  | workerRefuse phase =>
      have pending : state.worker.undispatched = true := by rw [phase]; rfl
      exact invariant.workerFrame rfl rfl rfl rfl (fun _ => .inr (.inr pending)) rfl
  | workerWritePayload phase | workerWriteHeader phase | workerStoreBytes phase
  | workerStoreSequence phase | workerSignal phase | workerStop =>
      refine invariant.workerFrame rfl rfl rfl rfl ?_ rfl
      rintro (events | waking | pending)
      · exact .inl events
      · exact nomatch waking
      · exact nomatch pending

/-- A client that begins quietly also publishes quietly. -/
theorem OneAtATime.publishesQuietly (invariant : OneAtATime state)
    (step : RpcStep state label next) : PublishesQuietly state label := by
  rintro rfl
  cases step with
  | storeSequence phase =>
      have idle := invariant.not_reading (show state.client.writing = true by rw [phase]; rfl)
      exact ⟨Nat.eq_zero_of_not_pos fun events => idle (.inl events),
        fun waking => idle (.inr (.inl waking))⟩

end OneAtATime

theorem oneAtATime_initial (workerState : WorkerState) : OneAtATime (.initial workerState) := by
  constructor <;> simp [RpcState.initial, ClientPhase.ahead, ClientPhase.writing,
    WorkerPhase.undispatched]

/-- In every run in which the client begins each call only when no wake-up is pending and the worker is
not between its wake-up and the end of a dispatch, the worker dispatches each published request at
most once: no two dispatches loaded the same stored sequence number, and no two found the same
request in the slot. -/
theorem dispatched_at_most_once {workerState : WorkerState} {trace : List (RpcState × RpcLabel)}
    {state : RpcState} (run : Run RpcStep (.initial workerState) trace state)
    (quiet : Meets BeginsQuietly trace) :
    (state.dispatches.map DispatchRecord.loaded).Nodup ∧
      (state.dispatches.map DispatchRecord.content).Nodup := by
  have kept : ∀ before label after, (TokenInvariant before ∧ OneAtATime before) →
      BeginsQuietly before label → RpcStep before label after →
      TokenInvariant after ∧ OneAtATime after := by
    rintro before label after ⟨tokens, one⟩ begins step
    exact ⟨tokenInvariant_step tokens (one.publishesQuietly step) step,
      oneAtATime_step one begins step⟩
  obtain ⟨tokens, one⟩ := run.invariant quiet
    ⟨tokenInvariant_initial workerState, oneAtATime_initial workerState⟩ kept
  have nodup : (state.dispatches.map DispatchRecord.loaded).Nodup :=
    tokens.ordered.imp Nat.ne_of_lt
  refine ⟨nodup, ?_⟩
  rwa [List.map_congr_left one.dispatched]

theorem nothing_fits : ([] : Bytes).length ≤ dscwMaxPayload.toNat := Nat.zero_le _

/-- A hello without payload. -/
def helloCall : RpcCall := ⟨MessageType.hello.code, 0, [], nothing_fits⟩

/-- The client gives up on a first hello that the worker has just dispatched, and begins a second one
before the worker has answered; each is dispatched once. -/
theorem dispatched_at_most_once_given_up :
    ∃ trace state, Run RpcStep (.initial {}) trace state ∧ Meets BeginsQuietly trace ∧
      Takes .timeout (fun _ => True) trace ∧
      state.dispatches.map DispatchRecord.loaded = [1, 2] ∧
      (state.dispatches.map DispatchRecord.loaded).Nodup := by
  have r0 : Run RpcStep (.initial {}) [] (.initial {}) ∧ Meets BeginsQuietly [] :=
    ⟨.start, meets_nil⟩
  have r1 := step_meeting r0 (.begin helloCall rfl)
    fun _ _ reading => by simp [RpcState.reading, RpcState.initial, WorkerPhase.undispatched] at reading
  have r2 := step_meeting r1 (.writeHeader rfl) nofun
  have r3 := step_meeting r2 (.writePayload rfl) nofun
  have r4 := step_meeting r3 (.storeBytes rfl) nofun
  have r5 := step_meeting r4 (.storeSequence rfl) nofun
  have r6 := step_meeting r5 (.signal rfl) nofun
  have r7 := step_meeting r6 (.workerWake rfl (by decide)) nofun
  have r8 := step_meeting r7 (.workerLoadSequence rfl) nofun
  have r9 := step_meeting r8 (.workerLoadBytes rfl) nofun
  have r10 := step_meeting r9 (.workerReadHeader rfl) nofun
  have r11 := step_meeting r10 (.workerDispatch rfl (by decide)
    (Interaction.runs_respond Platform.allSucceed _)) nofun
  have r12 := step_meeting r11 (.timeout rfl) nofun
  -- no wake-up is pending, and the worker is past its dispatch
  have r13 := step_meeting r12 (.begin helloCall rfl) (by
    rintro _ _ (pending | waking | undispatched)
    · exact absurd pending (Nat.lt_irrefl 0)
    · cases waking
    · cases undispatched)
  have r14 := step_meeting r13 (.writeHeader rfl) nofun
  have r15 := step_meeting r14 (.writePayload rfl) nofun
  have r16 := step_meeting r15 (.workerWritePayload rfl) nofun
  have r17 := step_meeting r16 (.workerWriteHeader rfl) nofun
  have r18 := step_meeting r17 (.storeBytes rfl) nofun
  have r19 := step_meeting r18 (.storeSequence rfl) nofun
  have r20 := step_meeting r19 (.signal rfl) nofun
  have r21 := step_meeting r20 (.workerStoreBytes rfl) nofun
  have r22 := step_meeting r21 (.workerStoreSequence rfl) nofun
  have r23 := step_meeting r22 (.workerSignal rfl) nofun
  have r24 := step_meeting r23 (.workerWake rfl (by decide)) nofun
  have r25 := step_meeting r24 (.workerLoadSequence rfl) nofun
  have r26 := step_meeting r25 (.workerLoadBytes rfl) nofun
  have r27 := step_meeting r26 (.workerReadHeader rfl) nofun
  have r28 := step_meeting r27 (.workerDispatch rfl (by decide)
    (Interaction.runs_respond Platform.allSucceed _)) nofun
  refine ⟨_, _, r28.1, r28.2, ?_, rfl, (dispatched_at_most_once r28.1 r28.2).1⟩
  iterate 16 apply Takes.append
  exact takes_last trivial

/-- The worker wakes up for a first hello; the client gives up on it and publishes a second one before
the worker loads the sequence number.  The worker dispatches the second hello, and dispatches it
again when its own wake-up arrives. -/
theorem dispatched_twice :
    ¬ ∀ workerState trace state, Run RpcStep (.initial workerState) trace state →
      (state.dispatches.map DispatchRecord.loaded).Nodup := by
  intro once
  have initial : Run RpcStep (.initial {}) [] (.initial {}) := .start
  have firstPublished := ((((initial.step (.begin helloCall rfl)).step (.writeHeader rfl)).step
    (.writePayload rfl)).step (.storeBytes rfl)).step (.storeSequence rfl)
  have givenUp := ((firstPublished.step (.signal rfl)).step (.workerWake rfl (by decide))).step
    (.timeout rfl)
  have secondPublished := ((((givenUp.step (.begin helloCall rfl)).step (.writeHeader rfl)).step
    (.writePayload rfl)).step (.storeBytes rfl)).step (.storeSequence rfl)
  have secondRead := ((secondPublished.step (.workerLoadSequence rfl)).step
    (.workerLoadBytes rfl)).step (.workerReadHeader rfl)
  have answered := (((((secondRead.step (.workerDispatch rfl (by decide)
    (Interaction.runs_respond Platform.allSucceed _))).step (.workerWritePayload rfl)).step
    (.workerWriteHeader rfl)).step (.workerStoreBytes rfl)).step (.workerStoreSequence rfl)).step
    (.workerSignal rfl)
  have wokenAgain := ((((answered.step (.signal rfl)).step (.workerWake rfl (by decide))).step
    (.workerLoadSequence rfl)).step (.workerLoadBytes rfl)).step (.workerReadHeader rfl)
  have dispatchedAgain := wokenAgain.step (.workerDispatch rfl (by decide)
    (Interaction.runs_respond Platform.allSucceed _))
  have nodup : [2, 2].Nodup := once _ _ _ dispatchedAgain
  exact absurd nodup (by decide)

end DawnShell
