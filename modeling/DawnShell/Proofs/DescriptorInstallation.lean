/-
Module: DawnShell.Proofs.DescriptorInstallation
Layer: Proofs
Purpose: Where the three descriptors of the transport end up in the worker.  Each installation is an update
  of one number of the table, so that a later one finds its source overwritten exactly when an earlier
  one had that number for its target.
Trusted boundary: none
Main exports: childInstallDescriptor_spec, Handed, SpareNumbers, descriptor_installation_iff
-/
import DawnShell.Codec.WorkerStart
import Mathlib.Data.List.Count

namespace DawnShell

open Descriptors

section Install

variable {limit source target : Nat} {table after : ClientTable}

/-- An installation puts the object of the source at the target, open across `exec`, and changes nothing
else: the temporary descriptor is gone again. -/
theorem childInstallDescriptor_spec (low : target < 64)
    (installed : childInstallDescriptor limit table source target = some after) :
    ∃ descriptor, table source = some descriptor ∧
      after = Function.update table target (some ⟨descriptor.object, false⟩) := by
  obtain ⟨⟨temporary, doubled⟩, made, rest⟩ := Option.bind_eq_some_iff.mp installed
  obtain ⟨moved, put, flagged⟩ := Option.bind_eq_some_iff.mp rest
  obtain ⟨descriptor, opened, found, rfl⟩ := dupFrom_spec made
  obtain ⟨⟨high, -, free⟩, -⟩ := lowestFree_spec found
  have apart : temporary ≠ target := by omega
  refine ⟨descriptor, opened, ?_⟩
  obtain rfl := dup2_spec put (Function.update_self ..) apart
  have shown : close (Function.update (Function.update table temporary
      (some ⟨descriptor.object, true⟩)) target (some ⟨descriptor.object, false⟩)) temporary target =
      some ⟨descriptor.object, false⟩ := by
    simp [close, Function.update_of_ne (Ne.symm apart)]
  obtain rfl := setCloexec_spec flagged shown
  funext number
  by_cases here : number = target
  · simp [here]
  · by_cases spare : number = temporary
    · simp [close, spare, free, apart]
    · simp [close, here, spare]

end Install

section Transport

variable {limit : Nat} {table after : ClientTable} {transport : Transport}

/-- The descriptors of the transport are the three lowest that were free. -/
structure Opened (table : ClientTable) (transport : Transport) : Prop where
  ordered : transport.memfd < transport.requestEventfd ∧
    transport.requestEventfd < transport.responseEventfd
  free : table transport.memfd = none ∧ table transport.requestEventfd = none ∧
    table transport.responseEventfd = none
  lowest : ∀ number, number < transport.responseEventfd → table number = none →
    number = transport.memfd ∨ number = transport.requestEventfd
  made : transport.table transport.memfd = some ⟨.memfd, true⟩ ∧
    transport.table transport.requestEventfd = some ⟨.requestEventfd, true⟩ ∧
    transport.table transport.responseEventfd = some ⟨.responseEventfd, true⟩

/-- A transport that is opened has four new descriptors, all different and each at the lowest number
that was free. -/
theorem openTransport_spec (opened : openTransport limit table = some transport) :
    Opened table transport := by
  obtain ⟨⟨memfd, first⟩, one, rest⟩ := Option.bind_eq_some_iff.mp opened
  obtain ⟨⟨request, second⟩, two, rest⟩ := Option.bind_eq_some_iff.mp rest
  obtain ⟨⟨response, third⟩, three, rest⟩ := Option.bind_eq_some_iff.mp rest
  obtain rfl := Option.some.inj rest
  obtain ⟨memfdFound, rfl⟩ := allocate_spec one
  obtain ⟨requestFound, rfl⟩ := allocate_spec two
  obtain ⟨responseFound, rfl⟩ := allocate_spec three
  obtain ⟨⟨-, -, memfdFree⟩, belowMemfd⟩ := lowestFree_spec memfdFound
  obtain ⟨⟨-, -, requestFree⟩, belowRequest⟩ := lowestFree_spec requestFound
  obtain ⟨⟨-, -, responseFree⟩, belowResponse⟩ := lowestFree_spec responseFound
  rw [update_eq_none_iff] at requestFree responseFree
  rw [update_eq_none_iff] at responseFree
  obtain ⟨requestApart, requestFree⟩ := requestFree
  obtain ⟨responseApart, responseApart', responseFree⟩ := responseFree
  have first : memfd < request := by
    rcases Nat.lt_or_ge request memfd with lower | upper
    · exact absurd requestFree (belowMemfd request (Nat.zero_le _) lower)
    · omega
  have second : request < response := by
    rcases Nat.lt_or_ge response request with lower | upper
    · have used := belowRequest response (Nat.zero_le _) lower
      exact absurd (update_eq_none_iff.mpr ⟨responseApart', responseFree⟩) used
    · omega
  refine ⟨⟨first, second⟩, ⟨memfdFree, requestFree, responseFree⟩, fun number below free => ?_, ?_⟩
  · have used := belowResponse number (Nat.zero_le _) below
    rw [Ne, update_eq_none_iff, update_eq_none_iff] at used
    by_contra other
    exact used ⟨fun same => other (.inr same), fun same => other (.inl same), free⟩
  · simp [Function.update_of_ne, requestApart.symm, responseApart.symm, responseApart'.symm]

/-- What the worker finds at its three numbers. -/
structure Handed (after : ClientTable) : Prop where
  memfd : after dscwWorkerMemfd = some ⟨.memfd, false⟩
  requestEventfd : after dscwWorkerRequestEventfd = some ⟨.requestEventfd, false⟩
  responseEventfd : after dscwWorkerResponseEventfd = some ⟨.responseEventfd, false⟩

/-- The transport is handed over exactly when no source is a target that was filled before. -/
theorem handed_iff (made : Opened table transport)
    (installed : childInstallDescriptors limit transport = some after) :
    Handed after ↔ transport.requestEventfd ≠ dscwWorkerMemfd ∧
      transport.responseEventfd ≠ dscwWorkerMemfd ∧
      transport.responseEventfd ≠ dscwWorkerRequestEventfd := by
  obtain ⟨first, one, rest⟩ := Option.bind_eq_some_iff.mp installed
  obtain ⟨second, two, three⟩ := Option.bind_eq_some_iff.mp rest
  obtain ⟨memfd, memfdOpen, rfl⟩ := childInstallDescriptor_spec (by decide) one
  obtain ⟨request, requestOpen, rfl⟩ := childInstallDescriptor_spec (by decide) two
  obtain ⟨response, responseOpen, rfl⟩ := childInstallDescriptor_spec (by decide) three
  obtain ⟨memfdMade, requestMade, responseMade⟩ := made.made
  obtain rfl := Option.some.inj (memfdOpen.symm.trans memfdMade)
  by_cases requestLost : transport.requestEventfd = dscwWorkerMemfd
  · rw [requestLost, Function.update_self] at requestOpen
    obtain rfl := Option.some.inj requestOpen
    refine iff_of_false (fun handed => ?_) (fun kept => kept.1 requestLost)
    have wrong := handed.requestEventfd
    simp [dscwWorkerRequestEventfd, dscwWorkerResponseEventfd] at wrong
  rw [Function.update_of_ne requestLost, requestMade] at requestOpen
  obtain rfl := Option.some.inj requestOpen
  by_cases responseReplaced : transport.responseEventfd = dscwWorkerRequestEventfd
  · rw [responseReplaced, Function.update_self] at responseOpen
    obtain rfl := Option.some.inj responseOpen
    refine iff_of_false (fun handed => ?_) (fun kept => kept.2.2 responseReplaced)
    simpa using handed.responseEventfd
  rw [Function.update_of_ne responseReplaced] at responseOpen
  by_cases responseLost : transport.responseEventfd = dscwWorkerMemfd
  · rw [responseLost, Function.update_self] at responseOpen
    obtain rfl := Option.some.inj responseOpen
    refine iff_of_false (fun handed => ?_) (fun kept => kept.2.1 responseLost)
    simpa using handed.responseEventfd
  rw [Function.update_of_ne responseLost, responseMade] at responseOpen
  obtain rfl := Option.some.inj responseOpen
  refine iff_of_true ?_ ⟨requestLost, responseLost, responseReplaced⟩
  constructor <;> simp [dscwWorkerMemfd, dscwWorkerRequestEventfd, dscwWorkerResponseEventfd]

/-- How many of the standard streams are closed. -/
def closedStreams (table : ClientTable) : Nat := [0, 1, 2].countP fun number => (table number).isNone

/-- The numbers that were open leave room for the three descriptors: none of the standard streams is
closed, or all are, or the first target is open and so is the second unless just one stream is closed. -/
def SpareNumbers (table : ClientTable) : Prop :=
  closedStreams table = 0 ∨ closedStreams table = 3 ∨
    (table dscwWorkerMemfd).isSome ∧
      (closedStreams table = 1 ∨ (table dscwWorkerRequestEventfd).isSome)

instance (table : ClientTable) : Decidable (SpareNumbers table) :=
  inferInstanceAs (Decidable (_ ∨ _ ∨ _ ∧ (_ ∨ _)))

/-- One for a number that is free. -/
def vacancy (table : ClientTable) (number : Nat) : Nat := if (table number).isNone then 1 else 0

/-- Whether the numbers are spare depends on which of the lowest descriptors are vacant. -/
theorem spareNumbers_iff_vacancy :
    SpareNumbers table ↔
      vacancy table 0 + vacancy table 1 + vacancy table 2 = 0 ∨
      vacancy table 0 + vacancy table 1 + vacancy table 2 = 3 ∨
      vacancy table 3 = 0 ∧
        (vacancy table 0 + vacancy table 1 + vacancy table 2 = 1 ∨ vacancy table 4 = 0) := by
  have counted : closedStreams table = vacancy table 0 + vacancy table 1 + vacancy table 2 := by
    simp [closedStreams, List.countP_cons, vacancy]
    omega
  have used : ∀ number, (table number).isSome = true ↔ vacancy table number = 0 := by
    intro number
    cases here : table number <;> simp [vacancy, here]
  rw [SpareNumbers]
  simp only [counted, used, dscwWorkerMemfd, dscwWorkerRequestEventfd]

/-- A free number is one of the first two found or not below the third; a used one is none of the three. -/
theorem Opened.vacancy_cases (made : Opened table transport) (number : Nat) :
    vacancy table number = 1 ∧ (number = transport.memfd ∨ number = transport.requestEventfd ∨
        transport.responseEventfd ≤ number) ∨
      vacancy table number = 0 ∧ number ≠ transport.memfd ∧ number ≠ transport.requestEventfd ∧
        number ≠ transport.responseEventfd := by
  obtain ⟨memfdFree, requestFree, responseFree⟩ := made.free
  cases here : table number with
  | none =>
      refine .inl ⟨by simp [vacancy, here], ?_⟩
      rcases Nat.lt_or_ge number transport.responseEventfd with below | above
      · exact (made.lowest number below here).imp_right .inl
      · exact .inr (.inr above)
  | some descriptor =>
      have apart : ∀ {other : Nat}, table other = none → number ≠ other := by
        rintro other free rfl
        simp [here] at free
      exact .inr ⟨by simp [vacancy, here], apart memfdFree, apart requestFree, apart responseFree⟩

/-- Where the three lowest free numbers are depends on which of the first five are free. -/
theorem spareNumbers_iff (made : Opened table transport) :
    SpareNumbers table ↔ transport.requestEventfd ≠ dscwWorkerMemfd ∧
      transport.responseEventfd ≠ dscwWorkerMemfd ∧
      transport.responseEventfd ≠ dscwWorkerRequestEventfd := by
  obtain ⟨first, second⟩ := made.ordered
  have zero := made.vacancy_cases 0
  have one := made.vacancy_cases 1
  have two := made.vacancy_cases 2
  have three := made.vacancy_cases 3
  have four := made.vacancy_cases 4
  rw [spareNumbers_iff_vacancy, dscwWorkerMemfd, dscwWorkerRequestEventfd]
  omega

end Transport

/-- The worker finds the memfd and the two eventfds at its three numbers, open across `exec`, exactly when
the numbers that were open in the client leave room for them. -/
theorem descriptor_installation_iff {limit : Nat} {table after : ClientTable} {transport : Transport}
    (opened : openTransport limit table = some transport)
    (installed : childInstallDescriptors limit transport = some after) :
    Handed after ↔ SpareNumbers table := by
  have made := openTransport_spec opened
  rw [handed_iff made installed, spareNumbers_iff made]

/-- A client that was started with the descriptors of a list. -/
def clientWith (numbers : List Nat) : ClientTable :=
  fun number => if number ∈ numbers then some ⟨.inherited number, false⟩ else none

/-- The usual client: the three streams are open, and the transport gets the numbers behind them. -/
theorem descriptor_installation_usual :
    ∃ transport after, openTransport 1024 (clientWith [0, 1, 2]) = some transport ∧
      childInstallDescriptors 1024 transport = some after ∧ Handed after := by
  have succeeds : ((openTransport 1024 (clientWith [0, 1, 2])).bind
      (childInstallDescriptors 1024)).isSome := by
    decide +kernel
  obtain ⟨after, found⟩ := Option.isSome_iff_exists.mp succeeds
  obtain ⟨transport, opened, installed⟩ := Option.bind_eq_some_iff.mp found
  exact ⟨transport, after, opened, installed,
    (descriptor_installation_iff opened installed).mpr (by decide)⟩

/-- A client whose standard input is closed: all three calls succeed, and the worker finds the memfd where
it expects the request eventfd. -/
theorem installation_without_stdin :
    ∃ transport after, openTransport 1024 (clientWith [1, 2]) = some transport ∧
      childInstallDescriptors 1024 transport = some after ∧
      after dscwWorkerRequestEventfd = some ⟨.memfd, false⟩ ∧ ¬Handed after := by
  have found : ((openTransport 1024 (clientWith [1, 2])).bind fun transport =>
      (childInstallDescriptors 1024 transport).bind fun after => after dscwWorkerRequestEventfd) =
      some ⟨.memfd, false⟩ := by
    decide +kernel
  obtain ⟨transport, opened, rest⟩ := Option.bind_eq_some_iff.mp found
  obtain ⟨after, installed, shown⟩ := Option.bind_eq_some_iff.mp rest
  refine ⟨transport, after, opened, installed, shown, fun handed => ?_⟩
  rw [handed.requestEventfd] at shown
  exact absurd shown (by decide)

end DawnShell
