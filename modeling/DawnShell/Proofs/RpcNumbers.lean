/-
Module: DawnShell.Proofs.RpcNumbers
Layer: Proofs
Purpose: The request ids and sequence numbers of the codec client.  The sequence number steps past zero
  when it wraps; the request id does not, so that exactly the runs of fewer than `2 ^ 32` calls consist
  of requests the worker accepts.
Trusted boundary: none
Main exports: sequenceOf, mem_emitAll, emitted_acceptable_iff
-/
import DawnShell.Codec.Rpc
import DawnShell.Proofs.Framing
import DawnShell.Lib.WrapCounter

namespace DawnShell

open Wire

/-! ### Sequence numbers -/

/-- The sequence number of the `serial`-th published request. -/
def sequenceOf (serial : Nat) : UInt32 := advanceSequence^[serial] 0

/-- The number of the next publication is the one that the client computes from the last. -/
theorem sequenceOf_succ (serial : Nat) : sequenceOf (serial + 1) = advanceSequence (sequenceOf serial) :=
  Function.iterate_succ_apply' _ _ _

/-- The sequence counter runs through all numbers below `2 ^ 32` but 0. -/
theorem toNat_advanceSequence (sequence : UInt32) :
    (advanceSequence sequence).toNat = WrapCounter.next (2 ^ 32) sequence.toNat := by
  have wrapped : sequence + 1 = 0 ↔ (sequence.toNat + 1) % 2 ^ 32 = 0 := by
    rw [← UInt32.toNat_inj, UInt32.toNat_add]
    rfl
  rw [advanceSequence, WrapCounter.next]
  split
  next zero =>
    rw [if_pos (wrapped.mp zero), UInt32.toNat_add, UInt32.toNat_add]
    simp only [UInt32.toNat_one, Nat.mod_add_mod, Nat.add_assoc]
  next nonzero => rw [if_neg (fun zero => nonzero (wrapped.mpr zero)), UInt32.toNat_add]; rfl

/-- A sequence number is never 0, which stands for no request. -/
theorem advanceSequence_ne_zero (sequence : UInt32) : advanceSequence sequence ≠ 0 := by
  intro zero
  have number := toNat_advanceSequence sequence
  rw [zero] at number
  exact WrapCounter.next_ne_zero (by decide) sequence.toNat_lt number.symm

/-- The number of a publication is what that many steps of the counter give. -/
theorem toNat_sequenceOf (serial : Nat) :
    (sequenceOf serial).toNat = (WrapCounter.next (2 ^ 32))^[serial] 0 := by
  induction serial with
  | zero => rfl
  | succ serial ih => rw [sequenceOf_succ, toNat_advanceSequence, ih, Function.iterate_succ_apply']

/-- Two published requests less than a full period apart have different sequence numbers, and none
has the number of the empty control block. -/
theorem sequenceOf_inj {first second : Nat} (ordered : first ≤ second) (positive : 0 < second)
    (near : second - first < 2 ^ 32 - 1) (same : sequenceOf first = sequenceOf second) :
    first = second := by
  cases first with
  | zero =>
      obtain ⟨serial, rfl⟩ : ∃ serial, second = serial + 1 := ⟨second - 1, by omega⟩
      rw [sequenceOf_succ] at same
      exact absurd same.symm (advanceSequence_ne_zero _)
  | succ first =>
      refine WrapCounter.iterate_next_inj (N := 2 ^ 32) (n := 0) (by decide) (by decide)
        (Nat.succ_pos first) ordered near ?_
      rw [← toNat_sequenceOf, ← toNat_sequenceOf, same]

/-! ### What a client publishes -/

/-- The `index`-th call publishes with the `index`-th request id and sequence number after the
initial ones. -/
theorem mem_emitAll {counters : ClientCounters} {calls : List RpcCall} {emitted : Emitted} :
    emitted ∈ emitAll counters calls ↔ ∃ index, ∃ inside : index < calls.length,
      emitted = ⟨calls[index].frame (counters.nextRequestId + UInt32.ofNat index),
        advanceSequence^[index + 1] counters.sequence⟩ := by
  induction calls generalizing counters with
  | nil => simp [emitAll]
  | cons call calls ih =>
      rw [emitAll, List.mem_cons, ih]
      constructor
      · rintro (rfl | ⟨index, inside, rfl⟩)
        · exact ⟨0, by simp, by simp⟩
        · refine ⟨index + 1, by simpa using inside, ?_⟩
          simp [ClientCounters.afterCall, UInt32.ofNat_add, UInt32.add_assoc, UInt32.add_comm 1]
      · rintro ⟨index, inside, rfl⟩
        cases index with
        | zero => exact .inl (by simp)
        | succ index =>
            refine .inr ⟨index, by simpa using inside, ?_⟩
            simp [ClientCounters.afterCall, UInt32.ofNat_add, UInt32.add_assoc, UInt32.add_comm 1]

/-- The request id of the call at an index is zero when the index is the last of a full period. -/
theorem firstRequestId_add_eq_zero {index : Nat} (small : index < 2 ^ 32) :
    (1 : UInt32) + UInt32.ofNat index = 0 ↔ index = 2 ^ 32 - 1 := by
  rw [← UInt32.toNat_inj, UInt32.toNat_add, UInt32.toNat_ofNat']
  simp only [UInt32.toNat_one, UInt32.toNat_zero]
  omega

/-- What the worker needs of a published request: its framing is accepted and its sequence number is
not zero. -/
def Emitted.acceptable (emitted : Emitted) : Prop :=
  framingAccepts emitted.frame = true ∧ emitted.sequence ≠ 0

/-- Up to `2 ^ 32 - 1` calls of known types are all acceptable to the worker, since the id does not come
to 0 before. -/
theorem emitted_acceptable {calls : List RpcCall}
    (defined : ∀ call ∈ calls, ∃ type : MessageType, call.type = type.code)
    (short : calls.length < 2 ^ 32) : ∀ emitted ∈ emitAll {} calls, emitted.acceptable := by
  intro emitted member
  obtain ⟨index, inside, rfl⟩ := mem_emitAll.mp member
  obtain ⟨type, known⟩ := defined calls[index] (List.getElem_mem inside)
  refine ⟨(Framing.framingAccepts_requestFrame_iff calls[index].fits).mpr ⟨?_, ?_⟩, ?_⟩
  · rw [known]
    exact type.code_and_responseBit
  · intro zero
    have last := (firstRequestId_add_eq_zero (by omega)).mp zero
    omega
  · rw [Function.iterate_succ_apply']
    exact advanceSequence_ne_zero _

/-- The call after a full period of request ids publishes request id zero. -/
theorem emitted_rejected (calls : List RpcCall) (long : 2 ^ 32 ≤ calls.length) :
    ∃ emitted ∈ emitAll {} calls, framingAccepts emitted.frame = false := by
  have inside : 2 ^ 32 - 1 < calls.length := by omega
  refine ⟨_, mem_emitAll.mpr ⟨2 ^ 32 - 1, inside, rfl⟩, ?_⟩
  have zero : (1 : UInt32) + UInt32.ofNat (2 ^ 32 - 1) = 0 :=
    (firstRequestId_add_eq_zero (by decide)).mpr rfl
  rw [Bool.eq_false_iff]
  intro accepted
  exact ((Framing.framingAccepts_requestFrame_iff calls[2 ^ 32 - 1].fits).mp accepted).2 zero

/-- Every request of a client run is acceptable to the worker exactly when the run has fewer than
`2 ^ 32` calls. -/
theorem emitted_acceptable_iff {calls : List RpcCall}
    (defined : ∀ call ∈ calls, ∃ type : MessageType, call.type = type.code) :
    (∀ emitted ∈ emitAll {} calls, emitted.acceptable) ↔ calls.length < 2 ^ 32 := by
  refine ⟨fun acceptable => ?_, emitted_acceptable defined⟩
  by_contra long
  obtain ⟨emitted, member, rejected⟩ := emitted_rejected calls (Nat.le_of_not_lt long)
  rw [(acceptable emitted member).1] at rejected
  contradiction

/-- A single hello is acceptable, being far from the end of the request ids. -/
theorem emitted_acceptable_iff_hello :
    let calls : List RpcCall := [⟨MessageType.hello.code, 0, [], Nat.zero_le _⟩]
    (∀ call ∈ calls, ∃ type : MessageType, call.type = type.code) ∧
      ((∀ emitted ∈ emitAll {} calls, emitted.acceptable) ↔ calls.length < 2 ^ 32) := by
  intro calls
  have defined : ∀ call ∈ calls, ∃ type : MessageType, call.type = type.code := by
    intro call member
    rw [List.mem_singleton.mp member]
    exact ⟨.hello, rfl⟩
  exact ⟨defined, emitted_acceptable_iff defined⟩

/-- `2 ^ 32` hellos: the last one has request id zero and is rejected, as the protocol wants the id to
be nonzero. -/
theorem emitted_unacceptable_after_wrap :
    ¬ ∀ calls : List RpcCall,
      (∀ call ∈ calls, ∃ type : MessageType, call.type = type.code) →
      ∀ emitted ∈ emitAll {} calls, emitted.acceptable := by
  intro acceptable
  let calls : List RpcCall :=
    List.replicate (2 ^ 32) ⟨MessageType.hello.code, 0, [], Nat.zero_le _⟩
  have defined : ∀ call ∈ calls, ∃ type : MessageType, call.type = type.code := by
    intro call member
    rw [List.eq_of_mem_replicate member]
    exact ⟨.hello, rfl⟩
  obtain ⟨emitted, member, rejected⟩ := emitted_rejected calls
    (Nat.le_of_eq List.length_replicate.symm)
  rw [(acceptable calls defined emitted member).1] at rejected
  contradiction

end DawnShell
