/-
Module: DawnShell.Proofs.DockerStages
Layer: Proofs
Purpose: How far a run of the Docker policy has come with one of its two managed files.  Before the file is
  replaced, the file and its recorded hash are the old ones; it is replaced only when the old file and hash
  have passed the check; behind that the hash file holds what has been written of the new hash.  This holds
  wherever a run fails or is killed.
Trusted boundary: none
Main exports: Tracked, Tracked.observe, PolicyWorld.Admits, Stage, Course, Standing, standing_of_cut
-/
import DawnShell.Docker.Policy

namespace DawnShell.Docker

open Interaction

/-! ### Publications -/

/-- The system, with the contents that have been renamed to each managed file so far. -/
structure Tracked where
  world : PolicyWorld
  published : ManagedFile → List Contents

/-- The contents that have been renamed to a managed file behind an exchange. -/
def Tracked.publishes (tracked : Tracked) (managed : ManagedFile) : PolicyExchange → List Contents
  | ⟨.move source destination, .returned 0⟩ =>
      if destination = managed.file
      then (tracked.world.contents source).toList ++ tracked.published managed
      else tracked.published managed
  | _ => tracked.published managed

/-- What an exchange does to the system and the history. -/
def Tracked.observe (sha256 : Sha256) (tracked : Tracked) (exchange : PolicyExchange) :
    Option Tracked :=
  (tracked.world.observe sha256 exchange).map fun next =>
    ⟨next, fun managed => tracked.publishes managed exchange⟩

/-- The history does not change what is possible. -/
theorem observed_tracked {sha256 : Sha256} {before after : PolicyWorld} {log : List PolicyExchange}
    (seen : observed (PolicyWorld.observe sha256) before log = some after)
    (published : ManagedFile → List Contents) :
    ∃ later, observed (Tracked.observe sha256) ⟨before, published⟩ log = some ⟨after, later⟩ := by
  induction log generalizing before published with
  | nil =>
      cases seen
      exact ⟨published, rfl⟩
  | cons exchange log ih =>
      obtain ⟨next, moved, rest⟩ := Option.bind_eq_some_iff.mp seen
      obtain ⟨later, tracked⟩ := ih rest fun managed =>
        Tracked.publishes ⟨before, published⟩ managed exchange
      refine ⟨later, ?_⟩
      rw [observed, Tracked.observe, moved]
      exact tracked

/-! ### Stages of a run -/

/-- The check of a managed file passes: there is none, or an empty daemon.json, or its digest is the one
that is recorded. -/
def PolicyWorld.Admits (sha256 : Sha256) (world : PolicyWorld) (managed : ManagedFile) : Prop :=
  ∀ contents, world.contents managed.file = some contents →
    (managed = .daemonJson ∧ contents = []) ∨
      (world.contents managed.hash).map firstLine = some (sha256.sum contents)

/-- What a run has done to a managed file and its recorded hash. -/
inductive Stage where
  | untouched
  | renamed
  /-- The hash file has been emptied, and so much has been written to it. -/
  | recording (written : Nat)
deriving DecidableEq, Repr

/-- The calls that can change what is at a path. -/
def PolicyCall.touches (path : PolicyFile) : PolicyCall → Bool
  | .openOutput file | .write file _ | .remove file => file = path
  | .move source destination => source = path || destination = path
  | _ => false

/-- The stage behind an exchange. -/
def Stage.advance (managed : ManagedFile) (stage : Stage) : PolicyExchange → Stage
  | ⟨.move _ destination, .returned 0⟩ => if destination = managed.file then .renamed else stage
  | ⟨.openOutput file, .returned 0⟩ => if file = managed.hash then .recording 0 else stage
  | ⟨.write file contents, .returned .complete⟩ =>
      if file = managed.hash then .recording contents.length else stage
  | ⟨.write file _, .returned (.failed written _)⟩ =>
      if file = managed.hash then .recording written else stage
  | _ => stage

/-- The contents that have been written for a managed file. -/
def prepares (managed : ManagedFile) (prepared : Contents) : PolicyExchange → Contents
  | ⟨.write file contents, .returned .complete⟩ =>
      if file = managed.temporary then contents else prepared
  | _ => prepared

/-- The course of a run as far as a managed file is concerned. -/
structure Course where
  prepared : Contents := []
  stage : Stage := .untouched
  touched : Bool := false
deriving DecidableEq, Repr

/-- One exchange more. -/
def Course.advance (managed : ManagedFile) (course : Course) (exchange : PolicyExchange) : Course where
  prepared := prepares managed course.prepared exchange
  stage := course.stage.advance managed exchange
  touched := course.touched || exchange.call.touches managed.file

/-- The course along a log. -/
def course (managed : ManagedFile) (log : List PolicyExchange) : Course :=
  log.foldl (Course.advance managed) {}

/-- The course notes that a managed file was touched exactly if some call of the log opens, writes,
removes or moves it. -/
theorem course_touched {managed : ManagedFile} {log : List PolicyExchange} :
    (course managed log).touched = log.any fun exchange => exchange.call.touches managed.file := by
  suffices general : ∀ before : Course, (log.foldl (Course.advance managed) before).touched =
      (before.touched || log.any fun exchange => exchange.call.touches managed.file) from
    (general {}).trans (Bool.false_or _)
  induction log with
  | nil => simp
  | cons exchange log ih => simp [ih, Course.advance, Bool.or_assoc]

/-! ### Views -/

/-- The system and its history, with the course of the run. -/
abbrev Watched := Tracked × Course

/-- The observer of a managed file. -/
abbrev watch (sha256 : Sha256) (managed : ManagedFile) : Watched → PolicyExchange → Option Watched :=
  alongside (Tracked.observe sha256) (Course.advance managed)

/-- What matters of all this for a managed file. -/
structure View where
  file : Option Contents
  hash : Option Contents
  temporary : Option Contents
  published : List Contents
  course : Course

/-- The view of a managed file. -/
def view (managed : ManagedFile) (state : Watched) : View where
  file := state.1.world.contents managed.file
  hash := state.1.world.contents managed.hash
  temporary := state.1.world.contents managed.temporary
  published := state.1.published managed
  course := state.2

section Views

variable {sha256 : Sha256} {managed : ManagedFile} {world : PolicyWorld} {file other : PolicyFile}
  {state next : Watched} {call : PolicyCall} {answer : call.Answer}

@[simp] theorem put_contents_self {contents : Option Contents} :
    (world.put file contents).contents file = contents :=
  if_pos rfl

theorem put_contents_of_ne {contents : Option Contents} (apart : other ≠ file) :
    (world.put file contents).contents other = world.contents other :=
  if_neg apart

@[simp] theorem file_ne_hash : managed.file ≠ managed.hash := by cases managed <;> decide

@[simp] theorem file_ne_temporary : managed.file ≠ managed.temporary := by cases managed <;> decide

@[simp] theorem hash_ne_temporary : managed.hash ≠ managed.temporary := by cases managed <;> decide

/-- An exchange is watched exactly if it is possible in the system, and then the system, the history and
the course all take their step together. -/
theorem watch_eq_some {exchange : PolicyExchange} :
    watch sha256 managed state exchange = some next ↔
      state.1.world.possible sha256 exchange = true ∧
        next = (⟨state.1.world.effect exchange, fun managed => state.1.publishes managed exchange⟩,
          state.2.advance managed exchange) := by
  simp only [watch, alongside, Tracked.observe, PolicyWorld.observe]
  by_cases possible : state.1.world.possible sha256 exchange = true <;> simp [possible, eq_comm]

/-- A call leaves the paths alone that it does not touch, whether it succeeds or fails; each call names
the paths that it touches. -/
theorem effect_contents (elsewhere : call.touches file = false) :
    (world.effect ⟨call, answer⟩).contents file = world.contents file := by
  cases call with
  | openOutput path =>
      have apart : file ≠ path := (of_decide_eq_false elsewhere ·.symm)
      rcases answer with (_ | _) | _
      · exact put_contents_of_ne apart
      · rfl
      · rfl
  | write path contents =>
      have apart : file ≠ path := (of_decide_eq_false elsewhere ·.symm)
      rcases answer with (_ | _) | _
      · exact put_contents_of_ne apart
      · exact put_contents_of_ne apart
      · rfl
  | remove path =>
      have apart : file ≠ path := (of_decide_eq_false elsewhere ·.symm)
      rcases answer with (_ | _) | _
      · exact put_contents_of_ne apart
      · rfl
      · rfl
  | move source destination =>
      simp only [PolicyCall.touches, Bool.or_eq_false_iff, decide_eq_false_iff_not] at elsewhere
      rcases answer with (_ | _) | _
      · exact (put_contents_of_ne (Ne.symm elsewhere.1)).trans
          (put_contents_of_ne (Ne.symm elsewhere.2))
      · rfl
      · rfl
  | makeLock | removeLock => rcases answer with (_ | _) | _ <;> rfl
  | _ => rcases answer with _ | _ <;> rfl

/-- The call can change one of the paths of a managed file. -/
def PolicyCall.concerns (managed : ManagedFile) (call : PolicyCall) : Bool :=
  call.touches managed.file || call.touches managed.hash || call.touches managed.temporary

/-- A call that touches none of the paths leaves the view of a managed file as it is: its contents, its
hash and what has been published. -/
theorem view_elsewhere (elsewhere : call.concerns managed = false)
    (moved : watch sha256 managed state ⟨call, answer⟩ = some next) :
    view managed next = view managed state := by
  obtain ⟨-, rfl⟩ := watch_eq_some.mp moved
  simp only [PolicyCall.concerns, Bool.or_eq_false_iff] at elsewhere
  obtain ⟨⟨file, hash⟩, temporary⟩ := elsewhere
  have published : state.1.publishes managed ⟨call, answer⟩ = state.1.published managed := by
    cases call with
    | move source destination =>
        simp only [PolicyCall.touches, Bool.or_eq_false_iff, decide_eq_false_iff_not] at file
        rcases answer with (_ | _) | _
        · exact if_neg file.2
        · rfl
        · rfl
    | _ => rfl
  have course : state.2.advance managed ⟨call, answer⟩ = state.2 := by
    simp only [Course.advance, file, Bool.or_false]
    cases call with
    | openOutput path =>
        have apart := of_decide_eq_false hash
        rcases answer with (_ | _) | _ <;> simp [prepares, Stage.advance, apart]
    | write path contents =>
        have apart := of_decide_eq_false hash
        have other := of_decide_eq_false temporary
        rcases answer with (_ | _) | _ <;> simp [prepares, Stage.advance, apart, other]
    | move source destination =>
        simp only [PolicyCall.touches, Bool.or_eq_false_iff, decide_eq_false_iff_not] at file
        rcases answer with (_ | _) | _ <;> simp [prepares, Stage.advance, file.2]
    | _ => rfl
  simp only [view, effect_contents file, effect_contents hash, effect_contents temporary, published,
    course]

/-! ### Moves of a view -/

section Moves

variable {contents : Contents} {written : Nat} {failure : Failure}

/-- The view behind a call that spares the managed file itself. -/
theorem view_spared {exchange : PolicyExchange} (spared : exchange.call.touches managed.file = false)
    (moved : watch sha256 managed state exchange = some next) :
    view managed next =
      { file := (state.1.world.effect exchange).contents managed.file
        hash := (state.1.world.effect exchange).contents managed.hash
        temporary := (state.1.world.effect exchange).contents managed.temporary
        published := state.1.publishes managed exchange
        course :=
          { prepared := prepares managed state.2.prepared exchange
            stage := state.2.stage.advance managed exchange
            touched := state.2.touched } } := by
  obtain ⟨-, rfl⟩ := watch_eq_some.mp moved
  simp only [view, Course.advance, spared, Bool.or_false]

/-- Opening the temporary file empties it; the managed file, its hash and the course stay as they are.
-/
theorem view_openTemporary
    (moved : watch sha256 managed state ⟨.openOutput managed.temporary, .returned 0⟩ = some next) :
    view managed next = { view managed state with temporary := some [] } := by
  rw [view_spared (by cases managed <;> rfl) moved]
  cases managed <;> rfl

/-- A complete write appends to the temporary file and becomes what the course takes for prepared. -/
theorem view_writeTemporary
    (moved : watch sha256 managed state ⟨.write managed.temporary contents, .returned .complete⟩ =
      some next) :
    view managed next =
      { view managed state with
        temporary := (view managed state).temporary.map (· ++ contents)
        course := { (view managed state).course with prepared := contents } } := by
  rw [view_spared (by cases managed <;> rfl) moved]
  cases managed <;> rfl

/-- A write that fails midway leaves the part that was written in the temporary file and prepares
nothing. -/
theorem view_writePart
    (moved : watch sha256 managed state
      ⟨.write managed.temporary contents, .returned (.failed written failure)⟩ = some next) :
    view managed next =
      { view managed state with
        temporary := (view managed state).temporary.map (· ++ contents.take written) } := by
  rw [view_spared (by cases managed <;> rfl) moved]
  cases managed <;> rfl

theorem view_removeTemporary
    (moved : watch sha256 managed state ⟨.remove managed.temporary, .returned 0⟩ = some next) :
    view managed next = { view managed state with temporary := none } := by
  rw [view_spared (by cases managed <;> rfl) moved]
  cases managed <;> rfl

/-- The rename publishes what the temporary file holds: this becomes the managed file and joins the
history, and nothing is left under the temporary name. -/
theorem view_rename
    (moved : watch sha256 managed state ⟨.move managed.temporary managed.file, .returned 0⟩ =
      some next) :
    view managed next =
      { view managed state with
        file := (view managed state).temporary
        temporary := none
        published := (view managed state).temporary.toList ++ (view managed state).published
        course := { (view managed state).course with stage := .renamed, touched := true } } := by
  obtain ⟨-, rfl⟩ := watch_eq_some.mp moved
  have touched : (state.2.touched || PolicyCall.touches managed.file (.move managed.temporary managed.file)) =
      true := by
    simp [PolicyCall.touches]
  rw [view, Course.advance, touched]
  cases managed <;> rfl

/-- Opening the hash file empties it, and the recording of the new digest begins with nothing written.
-/
theorem view_openHash
    (moved : watch sha256 managed state ⟨.openOutput managed.hash, .returned 0⟩ = some next) :
    view managed next =
      { view managed state with
        hash := some []
        course := { (view managed state).course with stage := .recording 0 } } := by
  rw [view_spared (by cases managed <;> rfl) moved]
  cases managed <;> rfl

/-- A complete write of the digest appends it to the hash file, and the stage counts all its bytes as
written. -/
theorem view_writeHash
    (moved : watch sha256 managed state ⟨.write managed.hash contents, .returned .complete⟩ =
      some next) :
    view managed next =
      { view managed state with
        hash := (view managed state).hash.map (· ++ contents)
        course := { (view managed state).course with stage := .recording contents.length } } := by
  rw [view_spared (by cases managed <;> rfl) moved]
  cases managed <;> rfl

/-- A digest that is written in part leaves that part in the hash file, and the stage says how much it
is. -/
theorem view_writeHashPart
    (moved : watch sha256 managed state
      ⟨.write managed.hash contents, .returned (.failed written failure)⟩ = some next) :
    view managed next =
      { view managed state with
        hash := (view managed state).hash.map (· ++ contents.take written)
        course := { (view managed state).course with stage := .recording written } } := by
  rw [view_spared (by cases managed <;> rfl) moved]
  cases managed <;> rfl

theorem view_failed {call : PolicyCall} {answer : call.Answer}
    (idle : ∀ world : PolicyWorld, world.effect ⟨call, answer⟩ = world)
    (unpublished : ∀ tracked : Tracked, ∀ managed,
      tracked.publishes managed ⟨call, answer⟩ = tracked.published managed)
    (unstaged : ∀ stage : Stage, stage.advance managed ⟨call, answer⟩ = stage)
    (unprepared : ∀ prepared, prepares managed prepared ⟨call, answer⟩ = prepared)
    (moved : watch sha256 managed state ⟨call, answer⟩ = some next) :
    view managed next =
      { view managed state with
        course := { (view managed state).course with
          touched := (view managed state).course.touched || call.touches managed.file } } := by
  obtain ⟨-, rfl⟩ := watch_eq_some.mp moved
  simp only [view, idle, unpublished, Course.advance, unstaged, unprepared]

end Moves

end Views

/-! ### Where a run stands -/

/-- Nothing has been done to the file or its hash. -/
structure Fresh (start : Tracked) (managed : ManagedFile) (view : View) : Prop where
  file : view.file = start.world.contents managed.file
  hash : view.hash = start.world.contents managed.hash
  published : view.published = start.published managed
  stage : view.course.stage = .untouched
  touched : view.course.touched = false

/-- What a stage says about the file, its hash and the history. -/
def View.Stands (sha256 : Sha256) (start : Tracked) (managed : ManagedFile) (view : View) :
    Stage → Prop
  | .untouched => view.file = start.world.contents managed.file ∧
      view.hash = start.world.contents managed.hash ∧ view.published = start.published managed
  | .renamed => view.file = some view.course.prepared ∧
      view.hash = start.world.contents managed.hash ∧
      view.published = view.course.prepared :: start.published managed
  | .recording written => view.file = some view.course.prepared ∧
      view.hash = some ((sha256.sum view.course.prepared ++ ['\n']).take written) ∧
      view.published = view.course.prepared :: start.published managed

/-- What holds wherever a run stands. -/
structure Standing (sha256 : Sha256) (start : Tracked) (managed : ManagedFile) (view : View) : Prop
    where
  admitted : view.course.touched = true → start.world.Admits sha256 managed
  stands : view.Stands sha256 start managed view.course.stage
  filled : view.course.stage ≠ .untouched → managed = .daemonJson → view.course.prepared ≠ []

/-- Wherever a part of the script fails or is killed, the run stands like this. -/
abbrev Guarded {α : Type} (sha256 : Sha256) (start : Tracked) (managed : ManagedFile) (state : Watched)
    (program : Steps α) (post : Watched → α → Prop) : Prop :=
  Survives (watch sha256 managed) state program
    (fun last => Standing sha256 start managed (view managed last))
    (fun last _ => Standing sha256 start managed (view managed last)) post

section Guarded

variable {sha256 : Sha256} {start : Tracked} {managed : ManagedFile} {state : Watched} {α β : Type}

/-- A run that has not yet touched a managed file is in order, since the file and its hash are still
those of the start. -/
theorem Fresh.standing {view : View} (fresh : Fresh start managed view) :
    Standing sha256 start managed view where
  admitted touched := by
    rw [fresh.touched] at touched
    cases touched
  stands := by
    rw [fresh.stage]
    exact ⟨fresh.file, fresh.hash, fresh.published⟩
  filled touched := absurd fresh.stage touched

/-- A program that only returns a value is guarded wherever the state is in order and the value meets
the postcondition. -/
theorem guarded_pure {value : α} {post : Watched → α → Prop}
    (here : Standing sha256 start managed (view managed state)) (holds : post state value) :
    Guarded sha256 start managed state (pure value) post :=
  survives_pure here holds

/-- A failing program is guarded for any postcondition, for it ends where it stands and nothing is
promised of a value. -/
theorem guarded_throw {failure : Failure} {post : Watched → α → Prop}
    (here : Standing sha256 start managed (view managed state)) :
    Guarded sha256 start managed state (throw failure) post :=
  survives_throw here here

/-- Programs are guarded in sequence when the second is guarded from every state and value in which the
first may end. -/
theorem guarded_bind {program : Steps α} {rest : α → Steps β} {post : Watched → β → Prop}
    (holds : Guarded sha256 start managed state program fun middle value =>
      Guarded sha256 start managed middle (rest value) post) :
    Guarded sha256 start managed state (program >>= rest) post :=
  survives_bind (fun _ _ here => here) holds

/-- A guarded program starts in order: it may be killed before its first call. -/
theorem Guarded.before {program : Steps α} {post : Watched → α → Prop}
    (holds : Guarded sha256 start managed state program post) :
    Standing sha256 start managed (view managed state) := by
  have before := Survives.before holds
  exact before

/-- A weaker postcondition is guarded too; what a run that is cut off leaves behind does not depend on
it. -/
theorem Guarded.mono {program : Steps α} {post weaker : Watched → α → Prop}
    (holds : Guarded sha256 start managed state program post)
    (implies : ∀ last value, post last value → weaker last value) :
    Guarded sha256 start managed state program weaker :=
  Survives.mono holds (fun _ here => here) (fun _ _ here => here) implies

/-- A call that is not answered with success may still have touched the file. -/
theorem Standing.touch {view : View} {touches : Bool} (here : Standing sha256 start managed view)
    (admitted : touches = true → start.world.Admits sha256 managed) :
    Standing sha256 start managed
      { view with course := { view.course with touched := view.course.touched || touches } } where
  admitted touched := by
    rcases (Bool.or_eq_true _ _).mp touched with before | now
    · exact here.admitted before
    · exact admitted now
  stands := by
    have stands := here.stands
    show View.Stands _ _ _ _ view.course.stage
    cases stage : view.course.stage <;> rw [stage] at stands <;> exact stands
  filled := here.filled

/-- A call whose result is looked at. A signal finds the files as they are, and a call that touches the
managed file is made only behind the check that admits it. -/
theorem guarded_ask {call : PolicyCall} {rest : call.Result → Steps β} {post : Watched → β → Prop}
    (here : Standing sha256 start managed (view managed state))
    (admitted : call.touches managed.file = true → start.world.Admits sha256 managed)
    (holds : ∀ result next, watch sha256 managed state ⟨call, .returned result⟩ = some next →
      Guarded sha256 start managed next (rest result) post) :
    Guarded sha256 start managed state (ask call >>= rest) post := by
  show Guarded sha256 start managed state (ExceptT.lift (Interaction.call call) >>=
    fun reply : Reply call.Result => (match reply with
      | .returned result => (pure result : Steps call.Result)
      | .signalled failure => throw failure) >>= rest) post
  apply survives_call
  · exact here
  intro answer next moved
  cases answer with
  | returned result => exact holds result next moved
  | signalled failure =>
      apply guarded_throw
      have same : view managed next =
          { view managed state with
            course := { (view managed state).course with
              touched := (view managed state).course.touched || call.touches managed.file } } := by
        apply view_failed _ _ _ _ moved <;> intros <;> cases call <;> rfl
      rw [same]
      exact here.touch admitted

/-! ### Parts that do not concern the file -/

/-- The part makes no call on the paths of the managed file. -/
abbrev Elsewhere (managed : ManagedFile) (program : Steps α) : Prop :=
  Calls (fun call : PolicyCall => call.concerns managed = false) program.run

/-- Calls that concern neither a managed file nor its hash and temporary file leave its view untouched
over a whole log. -/
theorem view_of_elsewhere {log : List PolicyExchange} {last : Watched}
    (elsewhere : ∀ exchange ∈ log, exchange.call.concerns managed = false)
    (seen : observed (watch sha256 managed) state log = some last) :
    view managed last = view managed state := by
  induction log generalizing state with
  | nil =>
      cases seen
      rfl
  | cons exchange log ih =>
      obtain ⟨next, moved, rest⟩ := Option.bind_eq_some_iff.mp seen
      obtain ⟨here, later⟩ := List.forall_mem_cons.mp elsewhere
      exact (ih later rest).trans (view_elsewhere here moved)

theorem guarded_elsewhere {program : Steps α} {post : Watched → α → Prop}
    (elsewhere : Elsewhere managed program) (here : Standing sha256 start managed (view managed state))
    (holds : ∀ last value, view managed last = view managed state → post last value) :
    Guarded sha256 start managed state program post := by
  intro log outcome last run seen
  have same := view_of_elsewhere (run.calls elsewhere) seen
  have stands : Standing sha256 start managed (view managed last) := same ▸ here
  rcases outcome with _ | _ | value
  · exact stands
  · exact stands
  · exact holds last value same

/-- A sequence of programs works elsewhere when the first does and the second does for every value. -/
theorem elsewhere_bind {program : Steps α} {rest : α → Steps β} (first : Elsewhere managed program)
    (second : ∀ value, Elsewhere managed (rest value)) : Elsewhere managed (program >>= rest) :=
  calls_except_bind first second

/-- The commands of the script touch no file of the policy, only what they are run on. -/
theorem elsewhere_commands {part : CommandSteps α} : Elsewhere managed (commands part) := by
  have quiet : ∀ words, (PolicyCall.command words).concerns managed = false := fun _ => rfl
  exact calls_embed quiet part.run

theorem elsewhere_ask {call : PolicyCall} (elsewhere : call.concerns managed = false) :
    Elsewhere managed (ask call) := by
  apply elsewhere_bind (calls_lift (calls_call elsewhere))
  intro reply
  cases reply <;> exact calls_pure _

theorem elsewhere_captured {result : Except Failure Contents} :
    Elsewhere managed (captured result) := by
  cases result <;> exact calls_pure _

theorem elsewhere_succeed {status : Nat} : Elsewhere managed (succeed status) := by
  rw [succeed]
  split <;> exact calls_pure _

theorem elsewhere_write {file : PolicyFile} {contents : Contents}
    (elsewhere : (PolicyCall.write file contents).concerns managed = false) :
    Elsewhere managed (write file contents) := by
  apply elsewhere_bind (elsewhere_ask elsewhere)
  intro result
  cases result <;> exact calls_pure _

/-- The file is none of those of the managed file. -/
def PolicyFile.apart (managed : ManagedFile) (file : PolicyFile) : Bool :=
  file != managed.file && file != managed.hash && file != managed.temporary

/-- Writing a file that is apart from a managed one, from the opening to the close, works elsewhere. -/
theorem elsewhere_writeFile {file : PolicyFile} {contents : Contents}
    (apart : file.apart managed = true) : Elsewhere managed (writeFile file contents) := by
  simp only [PolicyFile.apart, Bool.and_eq_true, bne_iff_ne] at apart
  have opens : (PolicyCall.openOutput file).concerns managed = false := by
    simp [PolicyCall.concerns, PolicyCall.touches, apart]
  have writes : (PolicyCall.write file contents).concerns managed = false := by
    simp [PolicyCall.concerns, PolicyCall.touches, apart]
  apply elsewhere_bind (elsewhere_ask opens)
  intro _
  apply elsewhere_bind elsewhere_succeed
  intro _
  exact elsewhere_write writes

/-- A move works elsewhere when both its source and its destination are apart from the managed file. -/
theorem elsewhere_move {source destination : PolicyFile} (sourceApart : source.apart managed = true)
    (destinationApart : destination.apart managed = true) : Elsewhere managed (move source destination) := by
  simp only [PolicyFile.apart, Bool.and_eq_true, bne_iff_ne] at sourceApart destinationApart
  have moves : (PolicyCall.move source destination).concerns managed = false := by
    simp [PolicyCall.concerns, PolicyCall.touches, sourceApart, destinationApart]
  exact elsewhere_bind (elsewhere_ask moves) fun _ => elsewhere_succeed

theorem elsewhere_verifyHash {other : ManagedFile} {message : String} :
    Elsewhere managed (verifyHash other message) := by
  apply elsewhere_bind (elsewhere_ask rfl)
  intro _
  apply elsewhere_bind elsewhere_captured
  intro expected
  apply elsewhere_bind (elsewhere_ask rfl)
  intro _
  apply elsewhere_bind elsewhere_captured
  intro actual
  split
  · exact calls_pure _
  · exact elsewhere_commands

/-- Replacing one managed file touches neither the other one nor what belongs to it. -/
theorem elsewhere_replaceManaged {other : ManagedFile} (apart : other ≠ managed) :
    Elsewhere managed (replaceManaged other) := by
  have files : other.file.apart managed = true ∧ other.hash.apart managed = true ∧
      other.temporary.apart managed = true := by
    cases other <;> cases managed <;> first | exact absurd rfl apart | decide
  apply elsewhere_bind (elsewhere_ask rfl)
  intro _
  apply elsewhere_bind elsewhere_captured
  intro newHash
  apply elsewhere_bind (elsewhere_move files.2.2 files.1)
  intro _
  apply elsewhere_bind (elsewhere_writeFile files.2.1)
  intro _
  exact elsewhere_commands

/-- The record of the resolved policy is a file of its own, so writing it concerns no managed file. -/
theorem elsewhere_writePolicyRecord {request : PolicyRequest} {resolution : Resolution}
    {mqueueSupported : Bool} :
    Elsewhere managed (writePolicyRecord request resolution mqueueSupported) := by
  have apart : PolicyFile.policyRecordNew.apart managed = true ∧
      PolicyFile.policyRecord.apart managed = true := by cases managed <;> decide
  have opens : (PolicyCall.openOutput .policyRecordNew).concerns managed = false := by
    cases managed <;> rfl
  apply elsewhere_bind (elsewhere_ask opens)
  intro _
  apply elsewhere_bind elsewhere_succeed
  intro _
  apply elsewhere_bind (elsewhere_ask rfl)
  intro epoch
  apply elsewhere_bind
  · apply elsewhere_write
    cases managed <;> rfl
  intro _
  apply elsewhere_bind elsewhere_commands
  intro _
  apply elsewhere_bind (elsewhere_move apart.1 apart.2)
  intro _
  exact elsewhere_commands

theorem elsewhere_cleanup {lockHeld : Bool} {result : Option Failure} :
    Elsewhere managed (cleanup lockHeld result) := by
  have ends : Elsewhere managed (cleanup false result) := by
    cases result with
    | none => exact calls_pure _
    | some failure => exact elsewhere_bind elsewhere_commands fun _ => calls_pure _
  cases lockHeld with
  | false => exact ends
  | true =>
      have removes : (PolicyCall.remove .owner).concerns managed = false := by cases managed <;> rfl
      apply elsewhere_bind (elsewhere_ask removes)
      intro _
      apply elsewhere_bind (elsewhere_ask rfl)
      intro _
      exact ends

/-- Taking the lock makes its directory, or fails, and leaves the managed files alone. -/
theorem elsewhere_takeLock : Elsewhere managed takeLock := by
  apply elsewhere_bind (elsewhere_ask rfl)
  intro status
  split
  · apply elsewhere_bind elsewhere_commands
    intro _
    exact elsewhere_bind elsewhere_commands fun _ => calls_pure _
  · exact elsewhere_bind elsewhere_commands fun _ => calls_pure _

/-! ### The replacement -/

/-- The new contents are in the temporary file. -/
structure Filled (start : Tracked) (managed : ManagedFile) (contents : Contents) (view : View) : Prop
    where
  fresh : Fresh start managed view
  temporary : view.temporary = some contents
  prepared : view.course.prepared = contents

/-- Emptying, filling or removing the temporary file. -/
theorem Fresh.temporary {view : View} {temporary : Option Contents} {prepared : Contents}
    (fresh : Fresh start managed view) :
    Fresh start managed
      { view with temporary := temporary, course := { view.course with prepared := prepared } } :=
  ⟨fresh.file, fresh.hash, fresh.published, fresh.stage, fresh.touched⟩

/-- Filling the temporary file keeps the run in order at every cut, and at the end the file holds
exactly the contents. -/
theorem guarded_writeTemporary {contents : Contents}
    (fresh : Fresh start managed (view managed state)) :
    Guarded sha256 start managed state (writeFile managed.temporary contents) fun last _ =>
      Filled start managed contents (view managed last) := by
  have untouched : (PolicyCall.openOutput managed.temporary).touches managed.file = false ∧
      (PolicyCall.write managed.temporary contents).touches managed.file = false := by
    cases managed <;> exact ⟨rfl, rfl⟩
  apply guarded_ask fresh.standing (by rw [untouched.1]; nofun)
  intro status opened moved
  cases status with
  | succ status =>
      have same := view_failed (fun _ => rfl) (fun _ _ => rfl) (fun _ => rfl) (fun _ => rfl) moved
      rw [untouched.1, Bool.or_false] at same
      apply guarded_throw
      rw [same]
      exact fresh.standing
  | zero =>
      have empty := view_openTemporary moved
      have still : Fresh start managed (view managed opened) := empty ▸ fresh.temporary
      apply guarded_ask still.standing (by rw [untouched.2]; nofun)
      intro result written moved
      cases result with
      | failed count failure =>
          apply guarded_throw
          rw [view_writePart moved]
          exact still.temporary.standing
      | complete =>
          have full := view_writeTemporary moved
          have filled : Filled start managed contents (view managed written) := by
            rw [full, empty]
            exact ⟨fresh.temporary, rfl, rfl⟩
          exact survives_pure filled.fresh.standing filled

/-- The file has been replaced, and its hash has not been recorded. -/
structure Renamed (sha256 : Sha256) (start : Tracked) (managed : ManagedFile) (contents : Contents)
    (view : View) : Prop where
  standing : Standing sha256 start managed view
  stage : view.course.stage = .renamed
  prepared : view.course.prepared = contents

/-- Renaming the filled file is in order when the check admits the old one, and it is the step at which
the new contents are published. -/
theorem guarded_rename {contents : Contents}
    (filled : Filled start managed contents (view managed state))
    (admits : start.world.Admits sha256 managed)
    (nonEmpty : managed = .daemonJson → contents ≠ []) :
    Guarded sha256 start managed state (move managed.temporary managed.file) fun last _ =>
      Renamed sha256 start managed contents (view managed last) := by
  have here : Standing sha256 start managed (view managed state) := filled.fresh.standing
  apply guarded_ask here (fun _ => admits)
  intro status next moved
  cases status with
  | succ status =>
      have same := view_failed (fun _ => rfl) (fun _ _ => rfl) (fun _ => rfl) (fun _ => rfl) moved
      apply guarded_throw
      rw [same]
      exact here.touch fun _ => admits
  | zero =>
      have renamed : Renamed sha256 start managed contents (view managed next) := by
        rw [view_rename moved, filled.temporary]
        refine ⟨⟨fun _ => admits, ⟨?_, filled.fresh.hash, ?_⟩, fun _ daemon => ?_⟩, rfl, filled.prepared⟩
        · exact congrArg some filled.prepared.symm
        · exact congrArg₂ List.cons filled.prepared.symm filled.fresh.published
        · exact filled.prepared ▸ nonEmpty daemon
      exact survives_pure renamed.standing renamed

theorem Renamed.recording {contents : Contents} {view : View}
    (renamed : Renamed sha256 start managed contents view) (written : Nat) :
    Standing sha256 start managed
      { view with
        hash := some ((sha256.sum contents ++ ['\n']).take written)
        course := { view.course with stage := .recording written } } := by
  obtain ⟨⟨admitted, stands, filled⟩, stage, prepared⟩ := renamed
  rw [stage] at stands
  subst prepared
  exact ⟨admitted, ⟨stands.1, rfl, stands.2.2⟩, fun _ => filled (by rw [stage]; nofun)⟩

/-- Behind the rename the digest of the new contents is recorded; wherever this stops, the hash file
holds a prefix of it. -/
theorem guarded_recordHash {contents : Contents}
    (renamed : Renamed sha256 start managed contents (view managed state)) :
    Guarded sha256 start managed state (writeFile managed.hash (sha256.sum contents ++ ['\n']))
      fun last _ => Standing sha256 start managed (view managed last) := by
  have untouched : (PolicyCall.openOutput managed.hash).touches managed.file = false ∧
      (PolicyCall.write managed.hash (sha256.sum contents ++ ['\n'])).touches managed.file = false := by
    cases managed <;> exact ⟨rfl, rfl⟩
  apply guarded_ask renamed.standing (by rw [untouched.1]; nofun)
  intro status opened moved
  cases status with
  | succ status =>
      have same := view_failed (fun _ => rfl) (fun _ _ => rfl) (fun _ => rfl) (fun _ => rfl) moved
      rw [untouched.1, Bool.or_false] at same
      apply guarded_throw
      rw [same]
      exact renamed.standing
  | zero =>
      have empty := view_openHash moved
      have still : Standing sha256 start managed (view managed opened) := by
        rw [empty]
        exact renamed.recording 0
      apply guarded_ask still (by rw [untouched.2]; nofun)
      intro result written moved
      cases result with
      | failed count failure =>
          apply guarded_throw
          rw [view_writeHashPart moved, empty]
          exact renamed.recording count
      | complete =>
          have recorded : Standing sha256 start managed (view managed written) := by
            rw [view_writeHash moved, empty]
            have whole := renamed.recording (sha256.sum contents ++ ['\n']).length
            rwa [List.take_length] at whole
          exact survives_pure recorded recorded

/-- The old file has passed the check, and the new contents are written: the file is replaced and its
hash recorded. -/
theorem guarded_replaceManaged {contents : Contents}
    (filled : Filled start managed contents (view managed state))
    (admits : start.world.Admits sha256 managed)
    (nonEmpty : managed = .daemonJson → contents ≠ []) :
    Guarded sha256 start managed state (replaceManaged managed) fun last _ =>
      Standing sha256 start managed (view managed last) := by
  have here : Standing sha256 start managed (view managed state) := filled.fresh.standing
  apply guarded_ask here (by nofun)
  intro result digested moved
  have same : view managed digested = view managed state := view_elsewhere rfl moved
  have digests := (watch_eq_some.mp moved).1
  cases result with
  | error failure =>
      apply guarded_throw
      rw [same]
      exact here
  | ok newHash =>
      have temporary : state.1.world.contents managed.temporary = some contents := filled.temporary
      obtain rfl : newHash = sha256.sum contents := by
        simpa [PolicyWorld.possible, temporary] using digests
      apply guarded_bind
      apply survives_pure
      · rw [same]
        exact here
      apply guarded_bind
      apply (guarded_rename (same ▸ filled) admits nonEmpty).mono
      intro renamed _ after
      apply guarded_bind
      apply (guarded_recordHash after).mono
      intro recorded _ standing
      exact guarded_elsewhere elsewhere_commands standing fun last _ same => same ▸ standing

/-! ### The checks -/

/-- A sequence of commands becomes the sequence of their calls. -/
theorem commands_bind {part : CommandSteps α} {rest : α → CommandSteps β} :
    commands (part >>= rest) = commands part >>= fun value => commands (rest value) := by
  refine (embed_bind part.run _).trans (congrArg _ (funext fun result => ?_))
  cases result <;> rfl

/-- The check has passed, and nothing has been done yet. -/
structure Checked (sha256 : Sha256) (start : Tracked) (managed : ManagedFile) (view : View) : Prop where
  fresh : Fresh start managed view
  admits : start.world.Admits sha256 managed

/-- Commands of which only the value matters. -/
theorem guarded_commands {part : CommandSteps α} {rest : α → Steps β} {post : Watched → β → Prop}
    (here : Standing sha256 start managed (view managed state))
    (holds : ∀ last value, view managed last = view managed state →
      Guarded sha256 start managed last (rest value) post) :
    Guarded sha256 start managed state (commands part >>= rest) post :=
  guarded_bind (guarded_elsewhere elsewhere_commands here holds)

theorem guarded_read {call : PolicyCall} {rest : call.Result → Steps β} {post : Watched → β → Prop}
    (fresh : Fresh start managed (view managed state)) (elsewhere : call.concerns managed = false)
    (holds : ∀ result next, Fresh start managed (view managed next) →
      state.1.world.possible sha256 ⟨call, .returned result⟩ = true →
      Guarded sha256 start managed next (rest result) post) :
    Guarded sha256 start managed state (ask call >>= rest) post := by
  have untouched : call.touches managed.file = false := by
    simp only [PolicyCall.concerns, Bool.or_eq_false_iff] at elsewhere
    exact elsewhere.1.1
  apply guarded_ask fresh.standing (by rw [untouched]; nofun)
  intro result next moved
  have same : view managed next = view managed state := view_elsewhere elsewhere moved
  exact holds result next (same ▸ fresh) (watch_eq_some.mp moved).1

theorem guarded_fail {code : Failure} {message : String} {post : Watched → α → Prop}
    (fresh : Fresh start managed (view managed state)) :
    Guarded sha256 start managed state (commands (fail code message)) post := by
  rw [fail, commands_bind]
  apply guarded_commands fresh.standing
  intro last _ same
  apply guarded_throw
  rw [same]
  exact fresh.standing

/-- A captured output costs no call: either it is there and the rest goes on with it, or the run fails
as it stands. -/
theorem guarded_captured {result : Except Failure Contents} {rest : Contents → Steps β}
    {post : Watched → β → Prop} (here : Standing sha256 start managed (view managed state))
    (holds : ∀ output, result = .ok output → Guarded sha256 start managed state (rest output) post) :
    Guarded sha256 start managed state (captured result >>= rest) post := by
  cases result with
  | ok output => exact holds output rfl
  | error failure => exact guarded_throw here

/-- When the comparison with the recorded digest passes, the check admits the managed file as it is at
that moment. -/
theorem guarded_verifyHash {message : String} (fresh : Fresh start managed (view managed state)) :
    Guarded sha256 start managed state (verifyHash managed message) fun last _ =>
      Checked sha256 start managed (view managed last) := by
  have recorded : state.1.world.contents managed.hash = start.world.contents managed.hash := fresh.hash
  apply guarded_read fresh rfl
  intro result expecting fresh expects
  apply guarded_captured fresh.standing
  rintro expected rfl
  apply guarded_read fresh rfl
  intro result digesting later digests
  apply guarded_captured later.standing
  rintro actual rfl
  split
  next equal =>
    have admits : start.world.Admits sha256 managed := by
      intro contents there
      have file : expecting.1.world.contents managed.file = some contents := fresh.file.trans there
      have digest : actual = sha256.sum contents := by simpa [PolicyWorld.possible, file] using digests
      rw [PolicyWorld.possible, recorded] at expects
      obtain ⟨line, hash, same⟩ := (Option.any_eq_true _ _).mp expects
      rw [hash, Option.map_some, ← of_decide_eq_true same, ← equal.2, digest]
      exact .inr rfl
    exact survives_pure later.standing ⟨later, admits⟩
  next => exact guarded_fail later

/-- The check of daemon.json changes nothing, and a run that gets past it has found the file absent,
empty or as recorded. -/
theorem guarded_checkDaemonJson (fresh : Fresh start .daemonJson (view .daemonJson state)) :
    Guarded sha256 start .daemonJson state checkDaemonJson fun last _ =>
      Checked sha256 start .daemonJson (view .daemonJson last) := by
  have file : state.1.world.contents .daemonJson = start.world.contents .daemonJson := fresh.file
  apply guarded_read fresh rfl
  intro isNonEmpty next fresh answered
  cases isNonEmpty with
  | true =>
      apply guarded_read fresh rfl
      intro isRegular next fresh _
      cases isRegular with
      | true => exact guarded_verifyHash fresh
      | false => exact guarded_bind (guarded_fail fresh)
  | false =>
      apply guarded_pure fresh.standing
      refine ⟨fresh, fun contents there => .inl ⟨rfl, ?_⟩⟩
      have there : state.1.world.contents .daemonJson = some contents := file.trans there
      simpa [PolicyWorld.possible, there] using answered

/-- The check of the wrapper changes nothing, and a run that gets past it has found no wrapper or the
recorded one. -/
theorem guarded_verifyManagedWrapper (fresh : Fresh start .dockerWrapper (view .dockerWrapper state)) :
    Guarded sha256 start .dockerWrapper state verifyManagedWrapper fun last _ =>
      Checked sha256 start .dockerWrapper (view .dockerWrapper last) := by
  have file : state.1.world.contents .dockerWrapper = start.world.contents .dockerWrapper := fresh.file
  apply guarded_read fresh rfl
  intro fileExists next fresh answered
  cases fileExists with
  | false =>
      apply guarded_pure fresh.standing
      refine ⟨fresh, fun contents there => ?_⟩
      have there : state.1.world.contents .dockerWrapper = some contents := file.trans there
      simp [PolicyWorld.possible, there] at answered
  | true =>
      apply guarded_read fresh rfl
      intro regular next fresh _
      cases regular with
      | false =>
          apply guarded_bind
          apply guarded_pure fresh.standing
          exact guarded_bind (guarded_fail fresh)
      | true =>
          apply guarded_read fresh rfl
          intro symlink next fresh _
          cases symlink with
          | true => exact guarded_bind (guarded_fail fresh)
          | false =>
              apply guarded_read fresh rfl
              intro isRegular next fresh _
              cases isRegular with
              | true => exact guarded_verifyHash fresh
              | false => exact guarded_bind (guarded_fail fresh)

/-! ### The script -/

/-- The daemon configuration that the script writes is never empty, so it is not mistaken for a file
that may be overwritten. -/
theorem configuration_ne_nil {backend : Backend} {storageDriver : StorageDriver} :
    configuration backend storageDriver ≠ [] := by
  simp [configuration, lines]

/-- Publication of daemon.json is in order from a checked state on: temporary file, rename and digest
follow each other. -/
theorem guarded_publishDaemonJson {backend : Backend} {storageDriver : StorageDriver}
    (checked : Checked sha256 start .daemonJson (view .daemonJson state)) :
    Guarded sha256 start .daemonJson state (publishDaemonJson backend storageDriver) fun last _ =>
      Standing sha256 start .daemonJson (view .daemonJson last) := by
  apply guarded_commands checked.fresh.standing
  intro announced _ same
  have fresh : Fresh start .daemonJson (view .daemonJson announced) := same ▸ checked.fresh
  apply guarded_bind
  apply (guarded_writeTemporary fresh).mono
  intro written _ filled
  apply guarded_commands filled.fresh.standing
  intro moded _ same
  rw [← same] at filled
  apply guarded_commands filled.fresh.standing
  intro validated valid same
  rw [← same] at filled
  cases valid with
  | true => exact guarded_replaceManaged filled checked.admits fun _ => configuration_ne_nil
  | false =>
      have untouched : (PolicyCall.remove .temporary).touches ManagedFile.daemonJson.file = false := rfl
      apply guarded_ask filled.fresh.standing (by rw [untouched]; nofun)
      intro status removed moved
      apply guarded_bind
      cases status with
      | succ status =>
          have same := view_failed (fun _ => rfl) (fun _ _ => rfl) (fun _ => rfl) (fun _ => rfl) moved
          apply guarded_throw
          rw [same]
          exact filled.fresh.standing.touch (by rw [untouched]; nofun)
      | zero =>
          have same : view .daemonJson removed = { view .daemonJson validated with temporary := none } :=
            view_removeTemporary moved
          have fresh : Fresh start .daemonJson (view .daemonJson removed) :=
            same ▸ filled.fresh.temporary
          exact guarded_pure fresh.standing (guarded_bind (guarded_fail fresh))

/-- Checking and installing the wrapper is in order at every cut, whether or not host IPC is wanted. -/
theorem guarded_configureHostIpcWrapper {wrapper : Contents} {hostIpcCompatibility : Bool}
    {backend : Backend} (fresh : Fresh start .dockerWrapper (view .dockerWrapper state)) :
    Guarded sha256 start .dockerWrapper state
      (configureHostIpcWrapper wrapper hostIpcCompatibility backend) fun last _ =>
        Standing sha256 start .dockerWrapper (view .dockerWrapper last) := by
  apply guarded_bind
  apply (guarded_verifyManagedWrapper fresh).mono
  intro verified _ checked
  apply guarded_commands checked.fresh.standing
  intro installed _ same
  rw [← same] at checked
  apply guarded_bind
  apply guarded_elsewhere (elsewhere_writeFile rfl) checked.fresh.standing
  intro configured _ same
  rw [← same] at checked
  apply guarded_commands checked.fresh.standing
  intro moded _ same
  rw [← same] at checked
  apply guarded_bind
  apply (guarded_writeTemporary checked.fresh).mono
  intro written _ filled
  apply guarded_commands filled.fresh.standing
  intro moded _ same
  rw [← same] at filled
  apply guarded_bind
  apply (guarded_replaceManaged filled checked.admits nofun).mono
  intro replaced _ standing
  exact guarded_elsewhere elsewhere_commands standing fun last _ same => same ▸ standing

/-- The parts that deal with the other managed file. -/
theorem elsewhere_publishDaemonJson {backend : Backend} {storageDriver : StorageDriver} :
    Elsewhere .dockerWrapper (publishDaemonJson backend storageDriver) := by
  apply elsewhere_bind elsewhere_commands
  intro _
  apply elsewhere_bind (elsewhere_writeFile rfl)
  intro _
  apply elsewhere_bind elsewhere_commands
  intro _
  apply elsewhere_bind elsewhere_commands
  intro valid
  cases valid with
  | true => exact elsewhere_replaceManaged (by decide)
  | false =>
      apply elsewhere_bind (elsewhere_ask rfl)
      intro _
      apply elsewhere_bind elsewhere_succeed
      intro _
      exact elsewhere_bind elsewhere_commands fun _ => elsewhere_replaceManaged (by decide)

theorem elsewhere_checkDaemonJson : Elsewhere managed checkDaemonJson := by
  apply elsewhere_bind (elsewhere_ask rfl)
  intro isNonEmpty
  cases isNonEmpty with
  | false => exact calls_pure _
  | true =>
      apply elsewhere_bind (elsewhere_ask rfl)
      intro isRegular
      cases isRegular with
      | true => exact elsewhere_verifyHash
      | false => exact elsewhere_bind elsewhere_commands fun _ => elsewhere_verifyHash

theorem elsewhere_verifyManagedWrapper : Elsewhere managed verifyManagedWrapper := by
  have hash : Elsewhere managed (do
      if !(← ask (.isRegular .dockerWrapperHash)) then
        commands (fail ⟨32, by decide⟩ "existing unmanaged /usr/local/bin/docker was preserved")
      verifyHash .dockerWrapper
        "managed Docker wrapper was modified outside DawnShell; refusing to overwrite it") := by
    apply elsewhere_bind (elsewhere_ask rfl)
    intro isRegular
    cases isRegular with
    | true => exact elsewhere_verifyHash
    | false => exact elsewhere_bind elsewhere_commands fun _ => elsewhere_verifyHash
  apply elsewhere_bind (elsewhere_ask rfl)
  intro fileExists
  cases fileExists with
  | false => exact calls_pure _
  | true =>
      apply elsewhere_bind (elsewhere_ask rfl)
      intro regular
      cases regular with
      | false =>
          apply elsewhere_bind (calls_pure _)
          intro symlink
          exact elsewhere_bind elsewhere_commands fun _ => hash
      | true =>
          apply elsewhere_bind (elsewhere_ask rfl)
          intro symlink
          cases symlink with
          | false => exact hash
          | true => exact elsewhere_bind elsewhere_commands fun _ => hash

theorem elsewhere_configureHostIpcWrapper {wrapper : Contents} {hostIpcCompatibility : Bool}
    {backend : Backend} :
    Elsewhere .daemonJson (configureHostIpcWrapper wrapper hostIpcCompatibility backend) := by
  apply elsewhere_bind elsewhere_verifyManagedWrapper
  intro _
  apply elsewhere_bind elsewhere_commands
  intro _
  apply elsewhere_bind (elsewhere_writeFile rfl)
  intro _
  apply elsewhere_bind elsewhere_commands
  intro _
  apply elsewhere_bind (elsewhere_writeFile rfl)
  intro _
  apply elsewhere_bind elsewhere_commands
  intro _
  apply elsewhere_bind (elsewhere_replaceManaged (by decide))
  intro _
  exact elsewhere_commands

/-- The part of the script inside Debian keeps both managed files in order, each through its own check
and publication. -/
theorem guarded_debianPolicy {wrapper : Contents} {request : PolicyRequest}
    (fresh : Fresh start managed (view managed state)) :
    Guarded sha256 start managed state (debianPolicy wrapper request) fun last _ =>
      Standing sha256 start managed (view managed last) := by
  apply guarded_commands fresh.standing
  intro checked mqueueSupported same
  rw [← same] at fresh
  -- What follows the wrapper concerns neither file.
  have rest : ∀ resolution : Resolution, Elsewhere managed (do
      writePolicyRecord request resolution mqueueSupported
      commands do
        say ("DOCKER_POLICY_SUCCEEDED: requested=" ++ request.policy.name ++ " resolved_backend=" ++
          resolution.backend.name ++ " bridge_support=" ++ resolution.bridgeSupportName ++
          " cgroup_driver=cgroupfs image_store=classic containerd_snapshotter=false" ++
          " host_ipc_compatibility=" ++ toString request.hostIpcCompatibility ++
          " storage_driver=" ++ request.storageDriver.name ++
          " mqueue_filesystem=" ++ toString mqueueSupported)
        if resolution.backend.hostNetwork then
          say "USAGE: start containers with --network host") := fun _ =>
    elsewhere_bind elsewhere_writePolicyRecord fun _ => elsewhere_commands
  cases managed with
  | daemonJson =>
      apply guarded_bind
      apply (guarded_checkDaemonJson fresh).mono
      intro verified _ checked
      apply guarded_commands checked.fresh.standing
      intro resolved resolution same
      rw [← same] at checked
      apply guarded_bind
      apply (guarded_publishDaemonJson checked).mono
      intro published _ standing
      apply guarded_bind
      apply guarded_elsewhere elsewhere_configureHostIpcWrapper standing
      intro configured _ same
      rw [← same] at standing
      exact guarded_elsewhere (rest resolution) standing fun last _ same => same ▸ standing
  | dockerWrapper =>
      apply guarded_bind
      apply guarded_elsewhere elsewhere_checkDaemonJson fresh.standing
      intro verified _ same
      rw [← same] at fresh
      apply guarded_commands fresh.standing
      intro resolved resolution same
      rw [← same] at fresh
      apply guarded_bind
      apply guarded_elsewhere elsewhere_publishDaemonJson fresh.standing
      intro published _ same
      rw [← same] at fresh
      apply guarded_bind
      apply (guarded_configureHostIpcWrapper fresh).mono
      intro configured _ standing
      exact guarded_elsewhere (rest resolution) standing fun last _ same => same ▸ standing

/-- Under the lock the owner is noted and Debian entered before the managed files are worked on, and
they are in order all the time. -/
theorem guarded_holdLock {wrapper : Contents} {pid : Nat} {request : PolicyRequest}
    (fresh : Fresh start managed (view managed state)) :
    Guarded sha256 start managed state (holdLock wrapper pid request) fun last _ =>
      Standing sha256 start managed (view managed last) := by
  have owner : PolicyFile.owner.apart managed = true := by cases managed <;> rfl
  apply guarded_bind
  apply guarded_elsewhere (elsewhere_writeFile owner) fresh.standing
  intro owned _ same
  rw [← same] at fresh
  apply guarded_commands fresh.standing
  intro entered _ same
  rw [← same] at fresh
  apply guarded_bind
  apply (guarded_debianPolicy fresh).mono
  intro done _ standing
  exact guarded_elsewhere elsewhere_commands standing fun last _ same => same ▸ standing

/-- The script inside its mount namespace keeps the managed files in order from its first call to its
last. -/
theorem guarded_insideMountNamespace {wrapper : Contents} {pid : Nat} {request : PolicyRequest}
    (fresh : Fresh start managed (view managed state)) :
    Guarded sha256 start managed state (insideMountNamespace wrapper pid request) fun last _ =>
      Standing sha256 start managed (view managed last) := by
  apply guarded_commands fresh.standing
  intro prepared _ same
  rw [← same] at fresh
  apply guarded_bind
  apply guarded_elsewhere (calls_tryCatch elsewhere_takeLock fun _ => elsewhere_cleanup) fresh.standing
  intro locked _ same
  rw [← same] at fresh
  apply guarded_bind
  apply survives_tryCatch
  · intro last _ after
    exact Guarded.before after
  apply Survives.mono (guarded_holdLock fresh) (fun _ here => here)
  · intro failed failure standing
    apply guarded_elsewhere elsewhere_cleanup standing
    intro last _ same
    exact guarded_elsewhere elsewhere_cleanup (same ▸ standing) fun last _ later =>
      (later.trans same) ▸ standing
  · intro held _ standing
    exact guarded_elsewhere elsewhere_cleanup standing fun last _ same => same ▸ standing

/-- The whole script keeps a managed file in order, whatever its arguments are and wherever it fails or
is killed. -/
theorem guarded_configureDockerNetwork {invocation : Invocation}
    (fresh : Fresh start managed (view managed state)) :
    Guarded sha256 start managed state (configureDockerNetwork invocation) fun last _ =>
      Standing sha256 start managed (view managed last) := by
  rw [configureDockerNetwork]
  split
  · exact guarded_fail fresh
  next request _ =>
    split
    · apply guarded_commands fresh.standing
      intro entered _ same
      exact guarded_insideMountNamespace (same ▸ fresh)
    · exact guarded_insideMountNamespace fresh

end Guarded

/-- Wherever a run of the script ends, it stands like this with each of its managed files. -/
theorem standing_of_cut {sha256 : Sha256} {managed : ManagedFile} {invocation : Invocation}
    {start last : Tracked} {log : List PolicyExchange} {outcome : Option (Except Failure Unit)}
    (run : Cut (configureDockerNetwork invocation).run log outcome)
    (seen : observed (Tracked.observe sha256) start log = some last) :
    Standing sha256 start managed (view managed (last, course managed log)) := by
  have fresh : Fresh start managed (view managed (start, {})) := ⟨rfl, rfl, rfl, rfl, rfl⟩
  have guarded : Guarded sha256 start managed (start, {}) (configureDockerNetwork invocation)
      fun last _ => Standing sha256 start managed (view managed last) :=
    guarded_configureDockerNetwork fresh
  have ends : observed (watch sha256 managed) (start, {}) log = some (last, course managed log) :=
    observed_alongside seen _
  have stands := guarded log outcome (last, course managed log) run ends
  rcases outcome with _ | _ | _ <;> exact stands

end DawnShell.Docker
