/-
Module: DawnShell.Proofs.AtomicPublication
Layer: Proofs
Purpose: What a publication leaves at its path when it is killed or an operation fails.  The old file
  stays until it is deleted, and the new one is there once the temporary file has been renamed; in between
  there is none.  So a publication is atomic exactly in the runs that do not end between a delete and the
  rename.
Trusted boundary: none
Main exports: uncovered, Stage, Publication.Atomic, publish_stages, published_iff, writeAtomic_atomic
-/
import DawnShell.App.Publish

namespace DawnShell.App

open Java Interaction

/-! ### Statement -/

/-- One exchange more: whether a file has been deleted and nothing has been renamed to it since. -/
def uncovers (destination : File) (before : Bool) : FileExchange → Bool
  | ⟨.delete file, true⟩ => before || decide (file = destination)
  | ⟨.renameTo _ target, true⟩ => before && decide (target ≠ destination)
  | _ => before

/-- A file has been deleted, and nothing has been renamed to it since. -/
def uncovered (destination : File) (log : List FileExchange) : Bool :=
  log.foldl (uncovers destination) false

/-- The path holds what it held before, or the complete new contents. -/
def Publication.Atomic (decode : JavaString → Option Contents) (publication : Publication)
    (before after : FileWorld) : Prop :=
  after.contents publication.destination = before.contents publication.destination ∨
    ∃ new, publication.contents decode before = some new ∧
      after.contents publication.destination = some new

/-! ### Calls -/

/-- The calls that can change what is at a path. -/
def FileCall.changes (path : File) : FileCall → Bool
  | .openOutput file | .write file _ | .delete file => decide (file = path)
  | .renameTo file destination => decide (file = path) || decide (destination = path)
  | _ => false

/-- The calls that change nothing. -/
def FileCall.quiet : FileCall → Bool
  | .openOutput _ | .write .. | .delete _ | .renameTo .. | .openAsset _ | .readAsset _ => false
  | _ => true

/-- The files together with whether the destination is uncovered. -/
abbrev Watched := FileWorld × Bool

abbrev watch (destination : File) : Watched → FileExchange → Option Watched :=
  alongside FileWorld.observe (uncovers destination)

section Calls

variable {world next : FileWorld} {path destination : File} {request : FileCall}
  {answer : request.Answer}

@[simp] theorem put_contents_self {contents : Option Contents} :
    (world.put path contents).contents path = contents :=
  if_pos rfl

/-- Putting contents at one path leaves those at the others. -/
theorem put_contents_of_ne {contents : Option Contents} {other : File} (apart : other ≠ path) :
    (world.put path contents).contents other = world.contents other :=
  if_neg apart

/-- A call that only looks leaves the files as they are. -/
theorem observe_quiet (quiet : request.quiet = true)
    (moved : world.observe ⟨request, answer⟩ = some next) : next = world := by
  cases request with
  | openOutput | write | delete | renameTo | openAsset | readAsset => cases quiet
  | fileExists file =>
      cases answer with
      | false =>
          cases moved
          rfl
      | true =>
          simp only [FileWorld.observe, Option.ite_none_right_eq_some] at moved
          cases moved.2
          rfl
  | exhausted => cases answer
  | _ =>
      cases moved
      rfl

/-- What is at the other paths stays: a call that does not change the destination leaves its contents,
whatever it does to the temporary file. -/
theorem observe_elsewhere (elsewhere : request.changes destination = false)
    (moved : world.observe ⟨request, answer⟩ = some next) :
    next.contents destination = world.contents destination := by
  cases request with
  | openOutput file =>
      have apart : destination ≠ file := (of_decide_eq_false elsewhere ·.symm)
      cases answer <;> cases moved
      · rfl
      · exact put_contents_of_ne apart
  | write file contents =>
      have apart : destination ≠ file := (of_decide_eq_false elsewhere ·.symm)
      cases answer <;> cases moved <;> exact put_contents_of_ne apart
  | delete file =>
      have apart : destination ≠ file := (of_decide_eq_false elsewhere ·.symm)
      cases answer with
      | false =>
          cases moved
          rfl
      | true =>
          simp only [FileWorld.observe, Option.ite_none_right_eq_some] at moved
          cases moved.2
          exact put_contents_of_ne apart
  | renameTo file target =>
      simp only [FileCall.changes, Bool.or_eq_false_iff, decide_eq_false_iff_not] at elsewhere
      obtain ⟨source, there⟩ := elsewhere
      cases answer with
      | false =>
          cases moved
          rfl
      | true =>
          simp only [FileWorld.observe, Option.ite_none_right_eq_some] at moved
          cases moved.2
          exact (put_contents_of_ne (Ne.symm source)).trans (put_contents_of_ne (Ne.symm there))
  | openAsset assetPath =>
      cases answer <;> cases moved <;> rfl
  | readAsset size =>
      cases answer with
      | failed =>
          cases moved
          rfl
      | _ =>
          simp only [FileWorld.observe, Option.ite_none_right_eq_some] at moved
          cases moved.2
          rfl
  | exhausted => cases answer
  | _ => rw [observe_quiet rfl moved]

/-- A call that does not change the destination does not uncover it. -/
theorem uncovers_elsewhere {before : Bool} (elsewhere : request.changes destination = false) :
    uncovers destination before ⟨request, answer⟩ = before := by
  cases request with
  | delete file =>
      have apart : file ≠ destination := of_decide_eq_false elsewhere
      cases answer <;> simp [uncovers, apart]
  | renameTo file target =>
      simp only [FileCall.changes, Bool.or_eq_false_iff, decide_eq_false_iff_not] at elsewhere
      cases answer <;> simp [uncovers, elsewhere.2]
  | _ => rfl

/-- A call that only looks leaves the watched state as it is. -/
theorem watch_quiet {state after : Watched} (quiet : request.quiet = true)
    (moved : watch destination state ⟨request, answer⟩ = some after) : after = state := by
  obtain ⟨seen, flag⟩ := alongside_eq_some moved
  have elsewhere : request.changes destination = false := by
    cases request with
    | openOutput | write | delete | renameTo => cases quiet
    | _ => rfl
  exact Prod.ext (observe_quiet quiet seen) (flag.trans (uncovers_elsewhere elsewhere))

end Calls

/-! ### Stages -/

/-- The old file is still there. -/
structure Kept (destination : File) (old : Option Contents) (state : Watched) : Prop where
  contents : state.1.contents destination = old
  covered : state.2 = false

/-- The old file has been deleted. -/
structure Gone (destination : File) (old : Option Contents) (state : Watched) : Prop where
  contents : state.1.contents destination = none
  existed : old ≠ none
  uncovered : state.2 = true

/-- The new file is there. -/
structure Replaced (destination : File) (new : Contents) (state : Watched) : Prop where
  contents : state.1.contents destination = some new
  covered : state.2 = false

/-- How far a publication has come. -/
inductive Stage (destination : File) (old : Option Contents) (new : Contents) (state : Watched) : Prop
    where
  | kept (kept : Kept destination old state)
  | gone (gone : Gone destination old state)
  | replaced (replaced : Replaced destination new state)

/-- Wherever a program is killed or fails, the publication is at one of its stages. -/
abbrev Staged {α : Type} (destination : File) (old : Option Contents) (new : Contents) (state : Watched)
    (program : FileSteps α) (post : Watched → α → Prop) : Prop :=
  Survives (watch destination) state program (Stage destination old new)
    (fun last _ => Stage destination old new last) post

section Stages

variable {destination temporary : File} {old : Option Contents} {new part : Contents} {state : Watched}
  {α β : Type}

/-- An exception ends a publication where it stands. -/
theorem staged_throw {thrown : Thrown} {post : Watched → α → Prop}
    (here : Stage destination old new state) :
    Staged destination old new state (throw thrown) post :=
  survives_throw here here

/-- Parts of a publication are staged in sequence. -/
theorem staged_bind {program : FileSteps α} {rest : α → FileSteps β} {post : Watched → β → Prop}
    (holds : Staged destination old new state program fun middle value =>
      Staged destination old new middle (rest value) post) :
    Staged destination old new state (program >>= rest) post :=
  survives_bind (fun _ _ here => here) holds

theorem Staged.mono {program : FileSteps α} {post weaker : Watched → α → Prop}
    (holds : Staged destination old new state program post)
    (implies : ∀ last value, post last value → weaker last value) :
    Staged destination old new state program weaker :=
  Survives.mono holds (fun _ here => here) (fun _ _ here => here) implies

theorem staged_quiet {request : FileCall} {rest : request.Answer → FileSteps β}
    {post : Watched → β → Prop} (quiet : request.quiet = true) (here : Stage destination old new state)
    (holds : ∀ answer, Staged destination old new state (rest answer) post) :
    Staged destination old new state (perform request >>= rest) post := by
  apply survives_call here
  intro answer next moved
  rw [watch_quiet quiet moved]
  exact holds answer

/-- The modes of a file are not its contents. -/
theorem staged_setPrivateMode {file : File} {executable : Bool} {post : Watched → Unit → Prop}
    (here : Stage destination old new state) (holds : post state ()) :
    Staged destination old new state (setPrivateMode file executable) post := by
  iterate 5
    apply staged_quiet rfl here
    intro _
  cases executable with
  | false => exact survives_pure here holds
  | true =>
      apply staged_quiet rfl here
      intro _
      exact survives_pure here holds

/-- Closing changes nothing, whether the body throws or not. -/
theorem staged_closing {close : FileCall} {closed : close.Answer → Bool} {body : FileSteps Unit}
    {post : Watched → Unit → Prop} (quiet : close.quiet = true)
    (holds : Staged destination old new state body fun last _ =>
      Stage destination old new last ∧ post last ()) :
    Staged destination old new state (closing close closed body) post := by
  apply staged_bind
  apply survives_tryCatch fun _ _ after => Survives.before after
  apply Survives.mono holds (fun _ here => here)
  · intro middle thrown here
    apply staged_quiet quiet here
    intro _
    exact staged_throw here
  · intro middle _ after
    apply staged_quiet quiet after.1
    intro answer
    split
    · exact survives_pure after.1 after.2
    · exact staged_throw after.1

/-! ### The temporary file -/

/-- The old file is still there, and the temporary file has this much. -/
structure Filling (destination temporary : File) (old : Option Contents) (part : Contents)
    (state : Watched) : Prop where
  kept : Kept destination old state
  filled : state.1.contents temporary = some part

/-- While the temporary file is filled the destination still has its old contents. -/
theorem Filling.stage (filling : Filling destination temporary old part state) :
    Stage destination old new state :=
  .kept filling.kept

/-- A call on the temporary file leaves the old file alone. -/
theorem Kept.watch {request : FileCall} {answer : request.Answer} {next : Watched}
    (kept : Kept destination old state) (elsewhere : request.changes destination = false)
    (moved : App.watch destination state ⟨request, answer⟩ = some next) : Kept destination old next := by
  obtain ⟨seen, flag⟩ := alongside_eq_some moved
  have covered := flag.trans (uncovers_elsewhere elsewhere)
  exact ⟨(observe_elsewhere elsewhere seen).trans kept.contents, covered.trans kept.covered⟩

/-- Opening the temporary file empties it and leaves the destination alone. -/
theorem staged_openOutput (apart : temporary ≠ destination) (kept : Kept destination old state) :
    Staged destination old new state (openOutput temporary) fun last _ =>
      Filling destination temporary old [] last ∧ last.1.unread = state.1.unread := by
  apply survives_call (.kept kept)
  intro answer next moved
  have elsewhere : (FileCall.openOutput temporary).changes destination = false := decide_eq_false apart
  have after := kept.watch elsewhere moved
  obtain ⟨seen, _⟩ := alongside_eq_some moved
  cases answer with
  | false => exact staged_throw (.kept after)
  | true =>
      apply survives_pure (.kept after)
      have made := Option.some.inj seen
      exact ⟨⟨after, by simp [← made]⟩, by rw [← made]; rfl⟩

/-- A write to the temporary file appends to it; if it fails midway the destination is still the old
one. -/
theorem staged_write {contents : Contents} (apart : temporary ≠ destination)
    (filling : Filling destination temporary old part state) :
    Staged destination old new state (write temporary contents) fun last _ =>
      Filling destination temporary old (part ++ contents) last ∧ last.1.unread = state.1.unread := by
  apply survives_call filling.stage
  intro answer next moved
  have elsewhere : (FileCall.write temporary contents).changes destination = false :=
    decide_eq_false apart
  have after := filling.kept.watch elsewhere moved
  obtain ⟨seen, _⟩ := alongside_eq_some moved
  cases answer with
  | failed written => exact staged_throw (.kept after)
  | complete =>
      apply survives_pure (.kept after)
      have made := Option.some.inj seen
      exact ⟨⟨after, by simp [← made, filling.filled]⟩, by rw [← made]; rfl⟩

/-- A sync changes no contents, whether it succeeds or not. -/
theorem staged_sync (filling : Filling destination temporary old part state) :
    Staged destination old new state (sync temporary) fun last _ =>
      Filling destination temporary old part last := by
  apply staged_quiet rfl filling.stage
  intro synced
  split
  · exact survives_pure filling.stage filling
  · exact staged_throw filling.stage

/-- Writing and syncing the temporary file gives it the whole contents, or leaves the destination as it
was. -/
theorem staged_writeSynced {contents : Contents} (apart : temporary ≠ destination)
    (kept : Kept destination old state) :
    Staged destination old new state (writeSynced temporary contents) fun last _ =>
      Filling destination temporary old contents last := by
  apply staged_bind
  apply (staged_openOutput apart kept).mono
  intro opened _ empty
  apply staged_closing rfl
  apply staged_bind
  apply (staged_write apart empty.1).mono
  intro written _ full
  rw [List.nil_append] at full
  apply (staged_sync full.1).mono
  intro last _ synced
  exact ⟨synced.stage, synced⟩

/-- What has been copied of an asset and what has not make up the asset. -/
structure Copying (destination temporary : File) (old : Option Contents) (asset : Contents)
    (state : Watched) : Prop where
  kept : Kept destination old state
  copied : ∃ part, state.1.contents temporary = some part ∧ part ++ state.1.unread = asset

/-- The loop of a copy fills the temporary file with what the asset holds, buffer by buffer. -/
theorem staged_copyLoop {fuel : Nat} (apart : temporary ≠ destination)
    (copying : Copying destination temporary old new state) :
    Staged destination old new state (copyLoop temporary fuel) fun last _ =>
      Filling destination temporary old new last := by
  apply survives_loop (fun state _ => Copying destination temporary old new state) copying
  · exact fun _ _ here => here
  · intro here stage
    apply survives_call stage
    nofun
  · intro here _ copying
    obtain ⟨part, filled, whole⟩ := copying.copied
    apply survives_call (.kept copying.kept)
    intro answer read moved
    have kept := copying.kept.watch rfl moved
    obtain ⟨seen, _⟩ := alongside_eq_some moved
    cases answer with
    | failed => exact staged_throw (.kept kept)
    | ended =>
        simp only [FileWorld.observe, Option.ite_none_right_eq_some] at seen
        obtain ⟨empty, same⟩ := seen
        have now : read.1.contents temporary = some new := by
          rw [← Option.some.inj same, filled, ← whole, empty, List.append_nil]
        exact survives_pure (.kept kept) ⟨.kept kept, kept, now⟩
    | bytes contents =>
        simp only [FileWorld.observe, Option.ite_none_right_eq_some] at seen
        obtain ⟨⟨_, _, rest, follows⟩, same⟩ := seen
        have made := Option.some.inj same
        have filling : Filling destination temporary old part read := ⟨kept, by rw [← made, ← filled]⟩
        apply staged_bind
        apply (staged_write apart filling).mono
        intro written _ ⟨longer, unread⟩
        apply survives_pure longer.stage
        refine ⟨longer.kept, part ++ contents, longer.filled, ?_⟩
        rw [unread, ← made, ← whole, ← follows, List.append_assoc, List.drop_left]

/-- Copying an asset fills the temporary file with the contents of the asset. -/
theorem staged_fillFromAsset {fuel : Nat} {assetPath : JavaString} (apart : temporary ≠ destination)
    (kept : Kept destination old state) :
    Staged destination old (state.1.assets assetPath) state (fillFromAsset fuel assetPath temporary)
      fun last _ => Filling destination temporary old (state.1.assets assetPath) last := by
  apply survives_call (.kept kept)
  intro answer next moved
  have after := kept.watch rfl moved
  obtain ⟨seen, _⟩ := alongside_eq_some moved
  cases answer with
  | false => exact staged_throw (.kept after)
  | true =>
      have made := Option.some.inj seen
      apply staged_closing rfl
      apply staged_bind
      apply (staged_openOutput apart after).mono
      intro opened _ ⟨empty, unread⟩
      apply staged_closing rfl
      apply staged_bind
      have copying : Copying destination temporary old (state.1.assets assetPath) opened :=
        ⟨empty.kept, [], empty.filled, by rw [unread, ← made]; rfl⟩
      apply (staged_copyLoop apart copying).mono
      intro copied _ full
      apply (staged_sync full).mono
      intro last _ synced
      exact ⟨synced.stage, synced.stage, synced⟩

/-! ### The destination -/

/-- A temporary file with a suffix is another file than its destination. -/
theorem temporary_ne {suffix : List Char} (some : suffix ≠ []) :
    destination.temporary suffix ≠ destination := by
  intro same
  have names : (destination.name ++ literal suffix).length = destination.name.length :=
    congrArg (fun file => file.name.length) same
  rw [List.length_append, literal, List.length_map] at names
  exact some (List.length_eq_zero_iff.mp (by omega))

/-- The old file is removed, if there is one; this is the only stage behind which the destination may be
missing. -/
theorem staged_removeOld {message : JavaString} (apart : temporary ≠ destination)
    (filling : Filling destination temporary old part state) :
    Staged destination old new state (removeOld destination message) fun last _ =>
      (Kept destination old last ∨ Gone destination old last) ∧
        last.1.contents temporary = some part := by
  apply staged_quiet rfl filling.stage
  intro present
  cases present with
  | false => exact survives_pure filling.stage ⟨.inl filling.kept, filling.filled⟩
  | true =>
      apply survives_call filling.stage
      intro answer next moved
      obtain ⟨seen, flag⟩ := alongside_eq_some moved
      cases answer with
      | false =>
          have same : next = state := Prod.ext (Option.some.inj seen).symm flag
          rw [same]
          exact staged_throw filling.stage
      | true =>
          simp only [FileWorld.observe, Option.ite_none_right_eq_some] at seen
          obtain ⟨existed, made⟩ := seen
          have made := Option.some.inj made
          have gone : Gone destination old next :=
            { contents := by rw [← made, put_contents_self]
              existed := by
                rw [← filling.kept.contents]
                exact Option.isSome_iff_ne_none.mp existed
              uncovered := by rw [flag]; simp [uncovers] }
          have filled : next.1.contents temporary = some part := by
            rw [← made, put_contents_of_ne apart, filling.filled]
          exact survives_pure (.gone gone) ⟨.inr gone, filled⟩

/-- The temporary file becomes the new one, and the destination has the new contents whether the old
ones were still there or not. -/
theorem staged_moveInto {message : JavaString} (apart : temporary ≠ destination)
    (before : Kept destination old state ∨ Gone destination old state)
    (filled : state.1.contents temporary = some new) :
    Staged destination old new state (moveInto destination temporary message) fun last _ =>
      Replaced destination new last := by
  have here : Stage destination old new state := by
    cases before with
    | inl kept => exact .kept kept
    | inr gone => exact .gone gone
  apply survives_call here
  intro answer next moved
  obtain ⟨seen, flag⟩ := alongside_eq_some moved
  cases answer with
  | false =>
      have same : next = state := Prod.ext (Option.some.inj seen).symm flag
      rw [same]
      exact staged_throw here
  | true =>
      simp only [FileWorld.observe, Option.ite_none_right_eq_some] at seen
      have made := Option.some.inj seen.2
      have replaced : Replaced destination new next :=
        { contents := by
            rw [← made, put_contents_of_ne apart.symm, put_contents_self, filled]
          covered := by rw [flag]; simp [uncovers] }
      exact survives_pure (.replaced replaced) replaced

/-- A publication goes through its stages, whatever fills its temporary file. -/
theorem publish_stages {fill : File → FileSteps Unit} {executable : Bool}
    {cannotReplace cannotPublish : JavaString}
    (filled : Staged destination old new state (fill (destination.temporary ".new".toList)) fun last _ =>
      Filling destination (destination.temporary ".new".toList) old new last) :
    Staged destination old new state
      (publish destination fill executable cannotReplace cannotPublish) fun last _ =>
        Replaced destination new last := by
  have apart : destination.temporary ".new".toList ≠ destination := temporary_ne (by decide)
  apply staged_bind
  apply filled.mono
  intro full _ filling
  apply staged_bind
  apply staged_setPrivateMode filling.stage
  apply staged_bind
  apply (staged_removeOld apart filling).mono
  intro removed _ ⟨before, filled⟩
  apply staged_bind
  apply (staged_moveInto apart before filled).mono
  intro moved _ replaced
  exact staged_setPrivateMode (.replaced replaced) replaced

end Stages

/-! ### Publications -/

section Publications

variable {decode : JavaString → Option Contents} {fuel : Nat} {publication : Publication}
  {before after : FileWorld} {destination : File} {old : Option Contents} {new : Contents}

/-- A stage is atomic exactly if it is not the one between the delete and the rename. -/
theorem Stage.atomic_iff {state : Watched} (stage : Stage destination old new state) :
    (state.1.contents destination = old ∨ state.1.contents destination = some new) ↔
      state.2 = false := by
  cases stage with
  | kept kept => simp [kept.contents, kept.covered]
  | gone gone => simp [gone.contents, gone.uncovered, gone.existed.symm]
  | replaced replaced => simp [replaced.contents, replaced.covered]

/-- Wherever a publication ends, it is at one of its stages. -/
theorem Staged.ends {program : FileSteps Unit} {log : List FileExchange}
    {outcome : Option (Except Thrown Unit)}
    (staged : Staged destination old new (before, false) program fun last _ =>
      Replaced destination new last)
    (run : Cut program.run log outcome) (seen : observed FileWorld.observe before log = some after) :
    Stage destination old new (after, uncovered destination log) := by
  have ended := staged log outcome _ run (observed_alongside seen false)
  cases outcome with
  | none => exact ended
  | some result =>
      cases result with
      | error thrown => exact ended
      | ok value => exact .replaced ended

/-- A routine that has something to publish goes through the stages: it fills the temporary file beside
the old one, may remove the old one, and renames. -/
theorem Publication.stages (complete : publication.contents decode before = some new) :
    Staged publication.destination (before.contents publication.destination) new (before, false)
      (publication.program decode fuel) fun last _ =>
        Replaced publication.destination new last := by
  have kept : Kept publication.destination (before.contents publication.destination) (before, false) :=
    ⟨rfl, rfl⟩
  have apart : publication.destination.temporary ".new".toList ≠ publication.destination :=
    temporary_ne (by decide)
  cases publication with
  | validateAndSave authorizedKeys input =>
      obtain ⟨keys, accepted, rfl⟩ := Option.map_eq_some_iff.mp complete
      have valid : normalizedKeys decode input = .ok keys := by
        cases checked : normalizedKeys decode input with
        | error message => simp [checked, Except.toOption] at accepted
        | ok others =>
            rw [checked] at accepted
            exact congrArg _ (Option.some.inj accepted)
      apply staged_bind
      rw [App.validateAndSave, valid]
      apply staged_bind
      apply (publish_stages (staged_writeSynced apart kept)).mono
      intro last _ replaced
      exact survives_pure (.replaced replaced) (survives_pure (.replaced replaced) replaced)
  | writeIdentity file identity =>
      cases complete
      rw [program, App.writeIdentity]
      exact publish_stages (staged_writeSynced apart kept)
  | writeManagedRevision filesDir revision =>
      cases complete
      rw [program, App.writeManagedRevision]
      exact publish_stages (staged_writeSynced apart kept)
  | copyPrivateAsset assetPath file executable =>
      cases complete
      rw [program, App.copyPrivateAsset]
      exact publish_stages (staged_fillFromAsset apart kept)

/-- A routine that rejects its input touches no file. -/
theorem Publication.rejects {log : List FileExchange} {outcome : Option (Except Thrown Unit)}
    (rejected : publication.contents decode before = none)
    (run : Cut (publication.program decode fuel).run log outcome) : log = [] := by
  cases publication with
  | validateAndSave authorizedKeys input =>
      cases checked : normalizedKeys decode input with
      | ok keys => simp [Publication.contents, checked, Except.toOption] at rejected
      | error message =>
          have stops : (Publication.program decode fuel (.validateAndSave authorizedKeys input)).run =
              .done (.error (.message message)) := by
            rw [Publication.program, App.validateAndSave, checked]
            rfl
          rw [stops] at run
          cases run <;> rfl
  | _ => cases rejected

/-- A publication is atomic in exactly the runs that do not end between the delete of the old file and
the rename of the new one. -/
theorem published_iff {log : List FileExchange} {outcome : Option (Except Thrown Unit)}
    (run : Cut (publication.program decode fuel).run log outcome)
    (seen : observed FileWorld.observe before log = some after) :
    publication.Atomic decode before after ↔ uncovered publication.destination log = false := by
  cases complete : publication.contents decode before with
  | none =>
      have untouched := publication.rejects complete run
      subst untouched
      cases seen
      exact iff_of_true (.inl rfl) rfl
  | some new =>
      have stage := Staged.ends (Publication.stages complete) run seen
      simpa [Publication.Atomic, complete] using stage.atomic_iff

end Publications

/-- The files before a revision is replaced. -/
def oldRevision : FileWorld where
  contents file := if file = revisionFile [] then some ['1', '\n'] else none
  assets _ := []

/-- What the replacement of a revision does until the old one is deleted. -/
def untilDeleted : List FileExchange :=
  let temporary := (revisionFile []).temporary ".new".toList
  [⟨.openOutput temporary, true⟩, ⟨.write temporary ['2', '\n'], .complete⟩, ⟨.sync temporary, true⟩,
    ⟨.closeOutput temporary, true⟩, ⟨.setReadable temporary false false, true⟩,
    ⟨.setWritable temporary false false, true⟩, ⟨.setExecutable temporary false false, true⟩,
    ⟨.setReadable temporary true true, true⟩, ⟨.setWritable temporary true true, true⟩,
    ⟨.fileExists (revisionFile []), true⟩, ⟨.delete (revisionFile []), true⟩]

/-- The run that ends there: it is atomic exactly if its log never uncovers the destination. -/
theorem published_iff_until_deleted : ∃ after,
    observed FileWorld.observe oldRevision untilDeleted = some after ∧
      ((Publication.writeManagedRevision [] 2).Atomic (fun _ => none) oldRevision after ↔
        uncovered (revisionFile []) untilDeleted = false) := by
  have run : Cut ((Publication.writeManagedRevision [] 2).program (fun _ => none) 0).run untilDeleted
      none := cut_of_leads (by decide +kernel)
  exact ⟨_, rfl, published_iff run rfl⟩

/-- A revision file is written anew, and the run ends between the delete of the old file and the rename:
the destination is missing. -/
theorem publication_not_atomic : ¬∀ (decode : JavaString → Option Contents) (fuel : Nat)
    (publication : Publication) (before after : FileWorld) (log : List FileExchange)
    (outcome : Option (Except Thrown Unit)), Cut (publication.program decode fuel).run log outcome →
      observed FileWorld.observe before log = some after → publication.Atomic decode before after := by
  intro atomic
  have run : Cut ((Publication.writeManagedRevision [] 2).program (fun _ => none) 0).run untilDeleted
      none := cut_of_leads (by decide +kernel)
  rcases atomic (fun _ => none) 0 _ oldRevision _ _ _ run rfl with kept | ⟨new, _, replaced⟩
  · cases kept
  · cases replaced

/-! ### A sibling -/

/-- `File.delete`. -/
def FileCall.isDelete : FileCall → Bool
  | .delete _ => true
  | _ => false

/-- The program deletes nothing. -/
abbrev Keeps {α : Type} (program : FileSteps α) : Prop :=
  Calls (fun request : FileCall => request.isDelete = false) program.run

/-- A call that deletes nothing keeps the destination covered. -/
theorem keeps_perform {request : FileCall} (other : request.isDelete = false) :
    Keeps (perform request) :=
  calls_lift (calls_call other)

/-- Setting the mode of a file deletes nothing. -/
theorem keeps_setPrivateMode {file : File} {executable : Bool} :
    Keeps (setPrivateMode file executable) := by
  iterate 5
    apply calls_except_bind (keeps_perform rfl)
    intro _
  cases executable with
  | false => exact calls_pure _
  | true => exact calls_except_bind (keeps_perform rfl) fun _ => calls_pure _

/-- Writing and syncing a file deletes nothing, so that neither can uncover the destination, whatever
fails in between. -/
theorem keeps_writeSynced {file : File} {contents : Contents} : Keeps (writeSynced file contents) := by
  have opens : Keeps (openOutput file) := by
    apply calls_except_bind (keeps_perform rfl)
    intro opened
    cases opened <;> exact calls_pure _
  have writes : Keeps (write file contents) := by
    apply calls_except_bind (keeps_perform rfl)
    intro answer
    cases answer <;> exact calls_pure _
  have syncs : Keeps (sync file) := by
    apply calls_except_bind (keeps_perform rfl)
    intro synced
    cases synced <;> exact calls_pure _
  apply calls_except_bind opens
  intro _
  apply calls_except_bind
  · apply calls_tryCatch (calls_except_bind writes fun _ => syncs)
    intro thrown
    exact calls_except_bind (keeps_perform rfl) fun _ => calls_pure _
  · intro _
    apply calls_except_bind (keeps_perform rfl)
    intro closed
    cases closed <;> exact calls_pure _

/-- Moving a file into place deletes nothing. -/
theorem keeps_moveInto {destination temporary : File} {message : JavaString} :
    Keeps (moveInto destination temporary message) := by
  apply calls_except_bind (keeps_perform rfl)
  intro renamed
  cases renamed <;> exact calls_pure _

/-- A log without a deletion never uncovers the destination. -/
theorem covered_of_keeps {destination : File} {log : List FileExchange}
    (kept : ∀ exchange ∈ log, exchange.call.isDelete = false) : uncovered destination log = false := by
  unfold uncovered
  induction log with
  | nil => rfl
  | cons exchange log ih =>
      have here : uncovers destination false exchange = false := by
        obtain ⟨request, answer⟩ := exchange
        cases request with
        | delete => cases kept _ (.head _)
        | renameTo => cases answer <;> rfl
        | _ => rfl
      rw [List.foldl_cons, here]
      exact ih fun other member => kept other (.tail _ member)

/-- A routine that renames over the old file is atomic in every run, wherever the run is cut: the
destination is the old file or the new one. -/
theorem writeAtomic_atomic {destination : File} {value : JavaString} {before after : FileWorld}
    {log : List FileExchange} {outcome : Option (Except Thrown Unit)}
    (run : Cut (writeAtomic destination value).run log outcome)
    (seen : observed FileWorld.observe before log = some after) :
    after.contents destination = before.contents destination ∨
      after.contents destination = some (encoded value) := by
  have kept : Kept destination (before.contents destination) (before, false) := ⟨rfl, rfl⟩
  have apart : destination.temporary ".tmp".toList ≠ destination := temporary_ne (by decide)
  have staged : Staged destination (before.contents destination) (encoded value) (before, false)
      (writeAtomic destination value) fun last _ => Replaced destination (encoded value) last := by
    apply staged_bind
    apply (staged_writeSynced apart kept).mono
    intro full _ filling
    apply staged_bind
    apply staged_setPrivateMode filling.stage
    apply staged_bind
    apply (staged_moveInto apart (.inl filling.kept) filling.filled).mono
    intro moved _ replaced
    exact staged_setPrivateMode (.replaced replaced) replaced
  have keeps : Keeps (writeAtomic destination value) := by
    apply calls_except_bind keeps_writeSynced
    intro _
    apply calls_except_bind keeps_setPrivateMode
    intro _
    apply calls_except_bind keeps_moveInto
    intro _
    exact keeps_setPrivateMode
  exact (staged.ends run seen).atomic_iff.mpr (covered_of_keeps (run.calls keeps))

end DawnShell.App
