/-
Module: DawnShell.Proofs.DockerRecovery
Layer: Proofs
Purpose: What an interrupted run of the Docker policy leaves to the next.  On a system where nothing fails by
  chance a run succeeds exactly when the lock is free and both managed files pass their check, whatever
  else lies about; so the next run succeeds unless the lock is still held, or a file has been renamed and
  its hash has not been recorded.  A run that fails has changed daemon.json when it has already renamed it.
Trusted boundary: a power loss keeps what some first part of the run has done
Main exports: Succeeds, PolicyWorld.Fit, succeeds_of_fit, lockHeld, Recorded, Recoverable, Leaves,
  policy_recoverable_iff
-/
import DawnShell.Proofs.DockerUserContent

namespace DawnShell.Docker

open Interaction

/-! ### Runs on a system where nothing fails by chance -/

/-- The script succeeds there. -/
def Succeeds (sha256 : Sha256) (host : Host) (invocation : Invocation) (world : PolicyWorld) : Prop :=
  ((configureDockerNetwork invocation).run.execute (host.environment sha256) world).2 = .ok ()

/-- The lock is free, and both managed files pass their check. -/
structure PolicyWorld.Fit (sha256 : Sha256) (world : PolicyWorld) : Prop where
  unlocked : world.locked = false
  admits : ∀ managed, world.Admits sha256 managed

section Execute

variable {sha256 : Sha256} {host later : Host} {world here there : PolicyWorld} {α β γ : Type}

/-- A question that the host answers takes the world to the state behind it and returns the answer. -/
theorem execute_ask {call : PolicyCall} {result : call.Result}
    (answers : (host.environment sha256).answer world call = .returned result) :
    (ask call).run.execute (host.environment sha256) world =
      ((host.environment sha256).after world call, .ok result) := by
  have lifted : (ExceptT.lift (Interaction.call call) : Steps call.Answer).run.execute
      (host.environment sha256) world = ((host.environment sha256).after world call,
        .ok ((host.environment sha256).answer world call)) := rfl
  rw [ask, execute_except_bind, lifted]
  dsimp only
  rw [answers]
  rfl

/-- Of two contents put at one path the later stays. -/
theorem put_put {file : PolicyFile} {contents contents' : Option Contents} :
    (world.put file contents).put file contents' = world.put file contents' := by
  simp only [PolicyWorld.put, PolicyWorld.mk.injEq, and_true]
  funext other
  split <;> rfl

/-- A program that fails returns no value in any world. -/
theorem fail_refuses {code : Failure} {message : String} {value : α} :
    ((commands (fail code message : CommandSteps α)).run.execute (host.environment sha256) world).2 ≠
      .ok value := by
  rw [fail, commands_bind, execute_except_bind]
  split <;> rintro ⟨⟩

/-- The comparison of a file that exists with a hash that is recorded. -/
theorem execute_verifyHash {managed : ManagedFile} {message : String} {contents recorded : Contents}
    (file : world.contents managed.file = some contents)
    (hash : world.contents managed.hash = some recorded) :
    (verifyHash managed message).run.execute (host.environment sha256) world =
      if firstLine recorded ≠ [] ∧ sha256.sum contents = firstLine recorded then (world, .ok ())
      else (commands (fail ⟨32, by decide⟩ message)).run.execute (host.environment sha256) world := by
  have expects : (host.environment sha256).answer world (.firstLine managed.hash) =
      .returned (.ok (firstLine recorded)) := by simp [Host.environment, hash]
  have digests : (host.environment sha256).answer world (.sha256sum managed.file) =
      .returned (.ok (sha256.sum contents)) := by simp [Host.environment, file]
  rw [verifyHash, execute_except_bind, execute_ask expects]
  show (ask (.sha256sum managed.file) >>= _).run.execute (host.environment sha256) world = _
  rw [execute_except_bind, execute_ask digests]
  show (if firstLine recorded ≠ [] ∧ sha256.sum contents = firstLine recorded then pure ()
    else commands (fail ⟨32, by decide⟩ message)).run.execute (host.environment sha256) world = _
  split <;> rfl

/-- With a file and a hash, the check is the comparison. -/
theorem verifyHash_iff (host : Host) {managed : ManagedFile} (message : String)
    {contents recorded : Contents}
    (file : world.contents managed.file = some contents)
    (hash : world.contents managed.hash = some recorded) :
    ((verifyHash managed message).run.execute (host.environment sha256) world = (world, .ok ()) ∧
        firstLine recorded = sha256.sum contents) ∨
      (∀ value, ((verifyHash managed message).run.execute (host.environment sha256) world).2 ≠
        .ok value) ∧ firstLine recorded ≠ sha256.sum contents := by
  rw [execute_verifyHash file hash]
  split
  next equal => exact .inl ⟨rfl, equal.2.symm⟩
  next differs =>
    refine .inr ⟨fun value => fail_refuses, fun same => differs ⟨?_, same.symm⟩⟩
    rw [same]
    exact sha256.nonEmpty contents

/-- A check of the script passes, and the file is admitted; or it refuses, and the file is not. -/
inductive Verdict (sha256 : Sha256) (host : Host) (world : PolicyWorld) (managed : ManagedFile)
    (program : Steps Unit) : Prop where
  | passes (ends : program.run.execute (host.environment sha256) world = (world, .ok ()))
      (admits : world.Admits sha256 managed)
  | refuses (fails : ∀ value, (program.run.execute (host.environment sha256) world).2 ≠ .ok value)
      (rejects : ¬world.Admits sha256 managed)

/-- The comparison of a file with its recorded digest passes exactly if the check admits the file, and
changes nothing. -/
theorem verdict_verifyHash {managed : ManagedFile} {message : String} {contents recorded : Contents}
    (file : world.contents managed.file = some contents)
    (hash : world.contents managed.hash = some recorded)
    (present : managed = .daemonJson → contents ≠ []) :
    Verdict sha256 host world managed (verifyHash managed message) := by
  rcases verifyHash_iff host message file hash with ⟨ends, same⟩ | ⟨fails, differs⟩
  · refine .passes ends fun other there => .inr ?_
    rw [file] at there
    cases there
    rw [hash, Option.map_some, same]
  · refine .refuses fails fun admits => ?_
    rcases admits contents file with ⟨daemon, empty⟩ | recorded
    · exact present daemon empty
    · rw [hash] at recorded
      exact differs (Option.some.inj recorded)

/-- A file without a recorded hash is refused. -/
theorem not_admits_of_unrecorded {managed : ManagedFile} {contents : Contents}
    (file : world.contents managed.file = some contents) (hash : world.contents managed.hash = none)
    (present : managed = .daemonJson → contents ≠ []) : ¬world.Admits sha256 managed := by
  intro admits
  rcases admits contents file with ⟨daemon, empty⟩ | recorded
  · exact present daemon empty
  · rw [hash] at recorded
    cases recorded

/-- Behind a failure nothing is done, so that the whole returns no value. -/
theorem fail_bind_refuses {code : Failure} {message : String} {rest : α → Steps β} {value : β} :
    ((commands (fail code message : CommandSteps α) >>= rest).run.execute
      (host.environment sha256) world).2 ≠ .ok value := by
  rw [execute_except_bind]
  split
  next value succeeds => exact absurd succeeds fail_refuses
  next => nofun

/-- A call of a check that is answered like this. -/
theorem Verdict.of_ask {managed : ManagedFile} {call : PolicyCall} {result : call.Result}
    {rest : call.Result → Steps Unit} {program : Steps Unit}
    (answers : (host.environment sha256).answer world call = .returned result)
    (unmoved : (host.environment sha256).after world call = world)
    (unfolds : program = ask call >>= rest)
    (holds : Verdict sha256 host world managed (rest result)) :
    Verdict sha256 host world managed program := by
  have ends : program.run.execute (host.environment sha256) world =
      (rest result).run.execute (host.environment sha256) world := by
    rw [unfolds, execute_except_bind, execute_ask answers, unmoved]
  cases holds with
  | passes passed admits => exact .passes (ends.trans passed) admits
  | refuses failed rejects => exact .refuses (fun value => ends ▸ failed value) rejects

/-- A file that is there is refused without a recorded digest, and compared with it otherwise. -/
theorem verdict_hash (managed : ManagedFile) {contents : Contents} {code : Failure}
    {unmanaged message : String} (file : world.contents managed.file = some contents)
    (present : managed = .daemonJson → contents ≠ []) :
    Verdict sha256 host world managed (do
      if !(← ask (.isRegular managed.hash)) then commands (fail code unmanaged)
      verifyHash managed message) := by
  cases hash : world.contents managed.hash with
  | none =>
      have answers : (host.environment sha256).answer world (.isRegular managed.hash) =
          .returned false := by simp [Host.environment, hash]
      apply Verdict.of_ask answers rfl rfl
      exact .refuses (fun value => fail_bind_refuses) (not_admits_of_unrecorded file hash present)
  | some recorded =>
      have answers : (host.environment sha256).answer world (.isRegular managed.hash) =
          .returned true := by simp [Host.environment, hash]
      apply Verdict.of_ask answers rfl rfl
      exact verdict_verifyHash file hash present

/-- A file that is not there is admitted, and there is nothing to check. -/
theorem verdict_absent {managed : ManagedFile} (file : world.contents managed.file = none) :
    Verdict sha256 host world managed (pure ()) := by
  refine .passes rfl fun contents there => ?_
  rw [file] at there
  cases there

/-- The check of daemon.json passes exactly if the file is absent, empty or the one that was recorded.
-/
theorem verdict_checkDaemonJson : Verdict sha256 host world .daemonJson checkDaemonJson := by
  cases file : world.contents .daemonJson with
  | none =>
      have answers : (host.environment sha256).answer world (.isNonEmpty .daemonJson) =
          .returned false := by simp [Host.environment, file]
      exact .of_ask answers rfl rfl (verdict_absent file)
  | some contents =>
      by_cases empty : contents = []
      · have answers : (host.environment sha256).answer world (.isNonEmpty .daemonJson) =
            .returned false := by simp [Host.environment, file, empty]
        apply Verdict.of_ask answers rfl rfl
        refine .passes rfl fun other there => .inl ⟨rfl, ?_⟩
        have there : world.contents .daemonJson = some other := there
        rw [file] at there
        cases there
        exact empty
      · have answers : (host.environment sha256).answer world (.isNonEmpty .daemonJson) =
            .returned true := by simp [Host.environment, file, empty]
        apply Verdict.of_ask answers rfl rfl
        exact verdict_hash .daemonJson file fun _ => empty

/-- The check of the wrapper passes exactly if there is none or it is the one that was recorded. -/
theorem verdict_verifyManagedWrapper :
    Verdict sha256 host world .dockerWrapper verifyManagedWrapper := by
  cases file : world.contents .dockerWrapper with
  | none =>
      have answers : (host.environment sha256).answer world (.fileExists .dockerWrapper) =
          .returned false := by simp [Host.environment, file]
      exact .of_ask answers rfl rfl (verdict_absent file)
  | some contents =>
      have present : (host.environment sha256).answer world (.fileExists .dockerWrapper) =
          .returned true := by simp [Host.environment, file]
      have regular : (host.environment sha256).answer world (.isRegular .dockerWrapper) =
          .returned true := by simp [Host.environment, file]
      apply Verdict.of_ask present rfl rfl
      apply Verdict.of_ask regular rfl rfl
      have symlink : (host.environment sha256).answer world (.isSymlink .dockerWrapper) =
          .returned false := rfl
      apply Verdict.of_ask symlink rfl rfl
      exact verdict_hash .dockerWrapper file (by rintro ⟨⟩)

/-! ### Two runs -/

/-- The commands answer alike on the two systems; the time may differ. -/
def Host.Alike (host later : Host) : Prop := host.command = later.command

/-- What holds of the runs on two such systems. -/
abbrev Compared (sha256 : Sha256) (host later : Host) (here there : PolicyWorld) (program : Steps α)
    (other : Steps β) (post : PolicyWorld → PolicyWorld → α → β → Prop) : Prop :=
  Follows (host.environment sha256) (later.environment sha256) here there program other post

/-- The same commands are answered alike by the host of both runs, which therefore go on with the same
value. -/
theorem compared_part {part : CommandSteps α} {post : PolicyWorld → PolicyWorld → α → α → Prop}
    (alike : host.Alike later) (holds : ∀ value, post here there value value) :
    Compared sha256 host later here there (commands part) (commands part) post := by
  have calls : Calls (fun call => ∃ words, call = PolicyCall.command words) (commands part).run :=
    calls_embed (fun words => ⟨words, rfl⟩) part.run
  apply follows_unmoved calls
  · rintro _ ⟨words, rfl⟩ _ _
    exact congrArg (fun command => Reply.returned (command words)) alike
  · rintro _ ⟨words, rfl⟩ world
    exact ⟨rfl, rfl⟩
  · exact holds

/-- Commands in front of a rest may be left out of a comparison. -/
theorem compared_commands {part : CommandSteps α} {rest : α → Steps β} {rest' : α → Steps γ}
    {post : PolicyWorld → PolicyWorld → β → γ → Prop} (alike : host.Alike later)
    (holds : ∀ value, Compared sha256 host later here there (rest value) (rest' value) post) :
    Compared sha256 host later here there (commands part >>= rest) (commands part >>= rest') post :=
  follows_bind (compared_part alike holds)

/-- When the question of the first run has its answer, the second run asks its own and both go on from
there. -/
theorem compared_ask {call call' : PolicyCall} {result : call.Result} {result' : call'.Result}
    {rest : call.Result → Steps β} {rest' : call'.Result → Steps γ}
    {post : PolicyWorld → PolicyWorld → β → γ → Prop}
    (one : (host.environment sha256).answer here call = .returned result)
    (two : (later.environment sha256).answer there call' = .returned result')
    (holds : Compared sha256 host later ((host.environment sha256).after here call)
      ((later.environment sha256).after there call') (rest result) (rest' result') post) :
    Compared sha256 host later here there (ask call >>= rest) (ask call' >>= rest') post := by
  have here_ends : (ask call >>= rest).run.execute (host.environment sha256) here =
      (rest result).run.execute (host.environment sha256)
        ((host.environment sha256).after here call) := by
    rw [execute_except_bind, execute_ask one]
  have there_ends : (ask call' >>= rest').run.execute (later.environment sha256) there =
      (rest' result').run.execute (later.environment sha256)
        ((later.environment sha256).after there call') := by
    rw [execute_except_bind, execute_ask two]
  intro value succeeds
  rw [here_ends] at succeeds ⊢
  rw [there_ends]
  exact holds value succeeds

/-- Writing a file goes alike in both runs; the two systems go on with their own contents in it. -/
theorem compared_writeFile {file : PolicyFile} {contents contents' : Contents}
    {rest : Unit → Steps β} {rest' : Unit → Steps γ} {post : PolicyWorld → PolicyWorld → β → γ → Prop}
    (holds : Compared sha256 host later (here.put file (some contents))
      (there.put file (some contents')) (rest ()) (rest' ()) post) :
    Compared sha256 host later here there (writeFile file contents >>= rest)
      (writeFile file contents' >>= rest') post := by
  have ends : ∀ (host : Host) (world : PolicyWorld) (contents : Contents),
      (writeFile file contents).run.execute (host.environment sha256) world =
        (world.put file (some contents), .ok ()) := by
    intro host world contents
    have opens : (host.environment sha256).answer world (.openOutput file) = .returned 0 := rfl
    rw [writeFile, execute_except_bind, execute_ask opens]
    have writes : (host.environment sha256).answer
        ((host.environment sha256).after world (.openOutput file)) (.write file contents) =
        .returned .complete := rfl
    show (write file contents).run.execute (host.environment sha256) _ = _
    rw [write, execute_except_bind, execute_ask writes]
    have full : (host.environment sha256).after
        ((host.environment sha256).after world (.openOutput file)) (.write file contents) =
        world.put file (some contents) := by
      show (world.put file (some [])).put file
        (((world.put file (some [])).contents file).map (· ++ contents)) = _
      rw [put_put, put_contents_self]
      rfl
    rw [full]
    rfl
  apply follows_bind
  intro _ _
  rw [ends, ends]
  exact ⟨(), rfl, holds⟩

/-- Renaming a file that the second system has: where the first run gets behind it, the second does too,
and the rest is compared there. -/
theorem compared_move {source destination : PolicyFile} {contents : Contents}
    {rest : Unit → Steps β} {rest' : Unit → Steps γ} {post : PolicyWorld → PolicyWorld → β → γ → Prop}
    (present : there.contents source = some contents)
    (holds : Compared sha256 host later
      ((here.put destination (here.contents source)).put source none)
      ((there.put destination (there.contents source)).put source none) (rest ()) (rest' ()) post) :
    Compared sha256 host later here there (move source destination >>= rest)
      (move source destination >>= rest') post := by
  apply follows_bind
  have two : (later.environment sha256).answer there (.move source destination) = .returned 0 := by
    simp [Host.environment, present]
  cases absent : (here.contents source).isSome with
  | false =>
      have one : (host.environment sha256).answer here (.move source destination) = .returned 1 := by
        simp [Host.environment, absent]
      exact compared_ask one two follows_throw
  | true =>
      have one : (host.environment sha256).answer here (.move source destination) = .returned 0 := by
        simp [Host.environment, absent]
      have moved : (host.environment sha256).after here (.move source destination) =
          (here.put destination (here.contents source)).put source none := by
        rw [Environment.after, Environment.exchange, one]
        rfl
      have moved' : (later.environment sha256).after there (.move source destination) =
          (there.put destination (there.contents source)).put source none := by
        rw [Environment.after, Environment.exchange, two]
        rfl
      apply compared_ask one two
      rw [moved, moved']
      exact follows_pure holds

/-- The digest of a file that the second system has: the second run gets one wherever the first does,
and the rest is compared for any two digests. -/
theorem compared_sha256sum {file : PolicyFile} {contents : Contents} {rest : Contents → Steps β}
    {rest' : Contents → Steps γ} {post : PolicyWorld → PolicyWorld → β → γ → Prop}
    (present : there.contents file = some contents)
    (holds : ∀ digest digest', Compared sha256 host later here there (rest digest) (rest' digest') post) :
    Compared sha256 host later here there (ask (.sha256sum file) >>= fun result => captured result >>= rest)
      (ask (.sha256sum file) >>= fun result => captured result >>= rest') post := by
  have two : (later.environment sha256).answer there (.sha256sum file) =
      .returned (.ok (sha256.sum contents)) := by simp [Host.environment, present]
  have still : (later.environment sha256).after there (.sha256sum file) = there := by
    rw [Environment.after, Environment.exchange, two]
    rfl
  cases mine : here.contents file with
  | none =>
      have one : (host.environment sha256).answer here (.sha256sum file) =
          .returned (.error ⟨1, by decide⟩) := by simp [Host.environment, mine]
      apply compared_ask one two
      exact follows_bind follows_throw
  | some own =>
      have one : (host.environment sha256).answer here (.sha256sum file) =
          .returned (.ok (sha256.sum own)) := by simp [Host.environment, mine]
      have still' : (host.environment sha256).after here (.sha256sum file) = here := by
        rw [Environment.after, Environment.exchange, one]
        rfl
      apply compared_ask one two
      rw [still, still']
      exact holds _ _

/-- Replacing a file whose new contents the second system has. -/
theorem compared_replaceManaged (managed : ManagedFile) {contents : Contents}
    {post : PolicyWorld → PolicyWorld → Unit → Unit → Prop} (alike : host.Alike later)
    (present : there.contents managed.temporary = some contents)
    (holds : ∀ digest digest', post
      (((here.put managed.file (here.contents managed.temporary)).put managed.temporary none).put
        managed.hash (some digest))
      (((there.put managed.file (there.contents managed.temporary)).put managed.temporary none).put
        managed.hash (some digest')) () ()) :
    Compared sha256 host later here there (replaceManaged managed) (replaceManaged managed) post := by
  apply compared_sha256sum present
  intro digest digest'
  apply compared_move present
  apply compared_writeFile
  apply compared_part alike
  intro _
  exact holds _ _

theorem compared_check {managed : ManagedFile} {program : Steps Unit} {rest : Unit → Steps β}
    {rest' : Unit → Steps γ} {post : PolicyWorld → PolicyWorld → β → γ → Prop}
    (verdict : ∀ (host : Host) (world : PolicyWorld), Verdict sha256 host world managed program)
    (passes : there.Admits sha256 managed)
    (holds : here.Admits sha256 managed →
      Compared sha256 host later here there (rest ()) (rest' ()) post) :
    Compared sha256 host later here there (program >>= rest) (program >>= rest') post := by
  apply follows_bind
  intro value succeeds
  cases verdict later there with
  | refuses _ rejects => exact absurd passes rejects
  | passes ends' _ =>
      cases verdict host here with
      | refuses fails _ => exact absurd succeeds (fails value)
      | passes ends admits =>
          rw [ends, ends']
          exact ⟨(), rfl, holds admits⟩

/-- A first run that fails has nothing to be compared with. -/
theorem compared_fail {code : Failure} {message : String} {other : Steps β}
    {post : PolicyWorld → PolicyWorld → α → β → Prop} :
    Compared sha256 host later here there (commands (fail code message)) other post :=
  fun _ succeeds => absurd succeeds fail_refuses

/-- The wrapper and its hash are as they were. -/
structure PolicyWorld.SameWrapper (world next : PolicyWorld) : Prop where
  file : next.contents .dockerWrapper = world.contents .dockerWrapper
  hash : next.contents .dockerWrapperHash = world.contents .dockerWrapperHash

/-- Whether the wrapper is admitted depends on the wrapper and its digest alone. -/
theorem PolicyWorld.SameWrapper.admits {next : PolicyWorld} (same : world.SameWrapper next) :
    next.Admits sha256 .dockerWrapper ↔ world.Admits sha256 .dockerWrapper := by
  simp only [PolicyWorld.Admits, ManagedFile.file, ManagedFile.hash, same.file, same.hash]

/-- Where the first run publishes daemon.json the second does, and neither touches the wrapper. -/
theorem compared_publishDaemonJson {backend : Backend} {storageDriver : StorageDriver}
    {rest : Unit → Steps β} {rest' : Unit → Steps γ} {post : PolicyWorld → PolicyWorld → β → γ → Prop}
    (alike : host.Alike later)
    (holds : ∀ next next' : PolicyWorld, here.SameWrapper next → there.SameWrapper next' →
      Compared sha256 host later next next' (rest ()) (rest' ()) post) :
    Compared sha256 host later here there (publishDaemonJson backend storageDriver >>= rest)
      (publishDaemonJson backend storageDriver >>= rest') post := by
  apply follows_bind
  apply compared_commands alike
  intro _
  apply compared_writeFile
  apply compared_commands alike
  intro _
  apply compared_commands alike
  intro valid
  cases valid with
  | false =>
      have removes : ∀ (host : Host) (world : PolicyWorld),
          (host.environment sha256).answer world (.remove .temporary) = .returned 0 := fun _ _ => rfl
      apply compared_ask (removes _ _) (removes _ _)
      apply follows_bind
      apply follows_pure
      exact follows_bind compared_fail
  | true =>
      apply compared_replaceManaged .daemonJson alike put_contents_self
      intro _ _
      exact holds _ _ ⟨rfl, rfl⟩ ⟨rfl, rfl⟩

/-- Where the wrapper is admitted in the second world, that run installs it wherever the first does. -/
theorem compared_configureHostIpcWrapper {wrapper : Contents} {hostIpcCompatibility : Bool}
    {backend : Backend} {rest : Unit → Steps β} {rest' : Unit → Steps γ}
    {post : PolicyWorld → PolicyWorld → β → γ → Prop} (alike : host.Alike later)
    (passes : there.Admits sha256 .dockerWrapper)
    (holds : here.Admits sha256 .dockerWrapper → ∀ next next',
      Compared sha256 host later next next' (rest ()) (rest' ()) post) :
    Compared sha256 host later here there
      (configureHostIpcWrapper wrapper hostIpcCompatibility backend >>= rest)
      (configureHostIpcWrapper wrapper hostIpcCompatibility backend >>= rest') post := by
  apply follows_bind
  apply compared_check (fun _ _ => verdict_verifyManagedWrapper) passes
  intro admits
  apply compared_commands alike
  intro _
  apply compared_writeFile
  apply compared_commands alike
  intro _
  apply compared_writeFile
  apply compared_commands alike
  intro _
  apply follows_bind
  apply compared_replaceManaged .dockerWrapper alike put_contents_self
  intro _ _
  apply compared_part alike
  intro _
  exact holds admits _ _

/-- The record of the policy is written in both runs: its text depends on the request, the backend and
the time, and not on what the runs have found. -/
theorem compared_writePolicyRecord {request : PolicyRequest} {resolution : Resolution}
    {mqueueSupported : Bool} {post : PolicyWorld → PolicyWorld → Unit → Unit → Prop}
    (alike : host.Alike later) (holds : ∀ next next', post next next' () ()) :
    Compared sha256 host later here there (writePolicyRecord request resolution mqueueSupported)
      (writePolicyRecord request resolution mqueueSupported) post := by
  have opens : ∀ (host : Host) (world : PolicyWorld),
      (host.environment sha256).answer world (.openOutput .policyRecordNew) = .returned 0 :=
    fun _ _ => rfl
  apply compared_ask (opens _ _) (opens _ _)
  apply follows_bind
  apply follows_pure
  apply compared_ask rfl rfl
  apply follows_bind
  have writes : ∀ (host : Host) (world : PolicyWorld) (contents : Contents),
      (host.environment sha256).answer world (.write .policyRecordNew contents) =
        .returned .complete := fun _ _ _ => rfl
  apply compared_ask (writes _ _ _) (writes _ _ _)
  apply follows_pure
  apply compared_commands alike
  intro _
  -- The record is in the file that is renamed.
  apply compared_move
  · exact put_contents_self
  apply compared_part alike
  intro _
  exact holds _ _

/-- If the first run gets through Debian, the second does where both managed files are admitted. -/
theorem compared_debianPolicy {wrapper : Contents} {request : PolicyRequest}
    {post : PolicyWorld → PolicyWorld → Unit → Unit → Prop} (alike : host.Alike later)
    (passes : ∀ managed, there.Admits sha256 managed)
    (holds : (∀ managed, here.Admits sha256 managed) → ∀ next next', post next next' () ()) :
    Compared sha256 host later here there (debianPolicy wrapper request) (debianPolicy wrapper request)
      post := by
  apply compared_commands alike
  intro mqueueSupported
  apply compared_check (fun _ _ => verdict_checkDaemonJson) (passes _)
  intro daemonJson
  apply compared_commands alike
  intro resolution
  apply compared_publishDaemonJson alike
  intro next next' same same'
  apply compared_configureHostIpcWrapper alike (same'.admits.mpr (passes _))
  intro dockerWrapper recorded recorded'
  apply follows_bind
  apply compared_writePolicyRecord alike
  intro _ _
  apply compared_part alike
  intro _
  apply holds
  intro managed
  cases managed with
  | daemonJson => exact daemonJson
  | dockerWrapper => exact same.admits.mp dockerWrapper

/-- Under the lock the second run follows the first, though it writes a pid of its own. -/
theorem compared_holdLock {wrapper : Contents} {pid pid' : Nat} {request : PolicyRequest}
    {post : PolicyWorld → PolicyWorld → Unit → Unit → Prop} (alike : host.Alike later)
    (passes : ∀ managed, there.Admits sha256 managed)
    (holds : (∀ managed, here.Admits sha256 managed) → ∀ next next', post next next' () ()) :
    Compared sha256 host later here there (holdLock wrapper pid request)
      (holdLock wrapper pid' request) post := by
  have owned : ∀ (world : PolicyWorld) (contents : Option Contents) (managed : ManagedFile),
      (world.put .owner contents).Admits sha256 managed ↔ world.Admits sha256 managed := by
    intro world contents managed
    cases managed <;> rfl
  apply compared_writeFile
  apply compared_commands alike
  intro _
  apply follows_bind
  apply compared_debianPolicy alike fun managed => (owned _ _ managed).mpr (passes managed)
  intro admits next next'
  apply compared_part alike
  intro _
  exact holds (fun managed => (owned _ _ managed).mp (admits managed)) _ _

/-- `mkdir` succeeds when the lock is free; the run with the free lock gets it wherever the other does.
-/
theorem compared_takeLock {post : PolicyWorld → PolicyWorld → Unit → Unit → Prop}
    (alike : host.Alike later) (free : there.locked = false)
    (holds : here.locked = false → post { here with locked := true } { there with locked := true } () ()) :
    Compared sha256 host later here there takeLock takeLock post := by
  have two : (later.environment sha256).answer there .makeLock = .returned 0 := by
    simp [Host.environment, free]
  cases locked : here.locked with
  | true =>
      have one : (host.environment sha256).answer here .makeLock = .returned 1 := by
        simp [Host.environment, locked]
      apply compared_ask one two
      exact fun _ succeeds => absurd succeeds fail_bind_refuses
  | false =>
      have one : (host.environment sha256).answer here .makeLock = .returned 0 := by
        simp [Host.environment, locked]
      have moved : (host.environment sha256).after here .makeLock = { here with locked := true } := by
        rw [Environment.after, Environment.exchange, one]
        rfl
      have moved' : (later.environment sha256).after there .makeLock =
          { there with locked := true } := by
        rw [Environment.after, Environment.exchange, two]
        rfl
      apply compared_ask one two
      rw [moved, moved']
      apply compared_commands alike
      intro _
      exact follows_pure (holds locked)

/-- A cleanup behind a failure ends with that failure, whatever becomes of the calls that it still
makes. -/
theorem cleanup_refuses {lockHeld : Bool} {failure : Failure} {value : Unit} :
    ((cleanup lockHeld (some failure)).run.execute (host.environment sha256) world).2 ≠ .ok value := by
  have ends : ∀ world : PolicyWorld, ((do
      let _ ← commands (run ["echo", "DOCKER_POLICY_FAILED: exit=" ++ toString failure.status])
      throw failure : Steps Unit).run.execute (host.environment sha256) world).2 ≠ .ok value := by
    intro world
    rw [execute_except_bind]
    split <;> nofun
  cases lockHeld with
  | false => exact ends world
  | true =>
      have removes : (host.environment sha256).answer world (.remove .owner) = .returned 0 := rfl
      obtain ⟨status, unlocks⟩ : ∃ status, (host.environment sha256).answer
          ((host.environment sha256).after world (.remove .owner)) .removeLock = .returned status :=
        ⟨_, rfl⟩
      show ((ask (.remove .owner) >>= _ : Steps Unit).run.execute (host.environment sha256) world).2 ≠ _
      rw [execute_except_bind, execute_ask removes]
      show ((ask .removeLock >>= _ : Steps Unit).run.execute (host.environment sha256) _).2 ≠ _
      rw [execute_except_bind, execute_ask unlocks]
      exact ends _

/-- The cleanup behind a success gives the lock back in both runs. -/
theorem compared_cleanup {post : PolicyWorld → PolicyWorld → Unit → Unit → Prop}
    (holds : ∀ next next', post next next' () ()) :
    Compared sha256 host later here there (cleanup true none) (cleanup true none) post := by
  apply compared_ask rfl rfl
  apply compared_ask rfl rfl
  exact follows_pure (holds _ _)

/-- If the first run succeeds, so does a second from any world that is fit for it. -/
theorem compared_insideMountNamespace {wrapper : Contents} {pid pid' : Nat} {request : PolicyRequest}
    (alike : host.Alike later) (fit : there.Fit sha256) :
    Compared sha256 host later here there (insideMountNamespace wrapper pid request)
      (insideMountNamespace wrapper pid' request) fun _ _ _ _ => here.Fit sha256 := by
  have locked : ∀ (world : PolicyWorld) (held : Bool) (managed : ManagedFile),
      ({ world with locked := held } : PolicyWorld).Admits sha256 managed ↔
        world.Admits sha256 managed := fun _ _ _ => Iff.rfl
  apply compared_commands alike
  intro _
  apply follows_bind
  apply follows_tryCatch _ fun _ _ _ => cleanup_refuses
  apply compared_takeLock alike fit.unlocked
  intro unlocked
  apply follows_bind
  apply follows_tryCatch _ fun _ _ _ => cleanup_refuses
  apply compared_holdLock alike fun managed => (locked _ _ managed).mpr (fit.admits managed)
  intro admits next next'
  apply compared_cleanup
  intro _ _
  exact ⟨unlocked, fun managed => (locked _ _ managed).mp (admits managed)⟩

end Execute

/-- A run that succeeds has found the lock free and both files admitted; and wherever that is so, a run with
these arguments succeeds. -/
theorem succeeds_of_fit {sha256 : Sha256} {host later : Host} {invocation : Invocation} {pid : Nat}
    {here there : PolicyWorld} (alike : host.Alike later)
    (succeeds : Succeeds sha256 host invocation here) (fit : there.Fit sha256) :
    Succeeds sha256 later { invocation with pid := pid } there ∧ here.Fit sha256 := by
  have compared : Compared sha256 host later here there (configureDockerNetwork invocation)
      (configureDockerNetwork { invocation with pid := pid }) fun _ _ _ _ => here.Fit sha256 := by
    rw [configureDockerNetwork, configureDockerNetwork]
    dsimp only
    cases checkArguments invocation.arguments with
    | error rejection => exact compared_fail
    | ok request =>
        cases inside : request.insideMountNamespace with
        | true => simpa [inside] using compared_insideMountNamespace alike fit
        | false =>
            simp only [inside]
            apply compared_commands alike
            intro _
            exact compared_insideMountNamespace alike fit
  obtain ⟨value, also, fits⟩ := compared () succeeds
  exact ⟨also, fits⟩

/-- A world without any file is fit for a run. -/
theorem fit_emptyWorld {sha256 : Sha256} : emptyWorld.Fit sha256 where
  unlocked := rfl
  admits _ _ := nofun

/-- Where a run succeeds the lock was free and both managed files were admitted. -/
theorem fit_of_succeeds {sha256 : Sha256} {host : Host} {invocation : Invocation} {world : PolicyWorld}
    (succeeds : Succeeds sha256 host invocation world) : world.Fit sha256 := by
  have again : Succeeds sha256 host { invocation with pid := 0 } emptyWorld ∧ world.Fit sha256 :=
    succeeds_of_fit rfl succeeds fit_emptyWorld
  exact again.2

/-! ### Interrupted runs -/

/-- Whether the lock is held behind an exchange. -/
def locks (held : Bool) : PolicyExchange → Bool
  | ⟨.makeLock, .returned 0⟩ => true
  | ⟨.removeLock, .returned 0⟩ => false
  | _ => held

/-- Whether a run holds the lock behind these exchanges. -/
def lockHeld (log : List PolicyExchange) : Bool := log.foldl locks false

/-- What a run leaves when it fails, is killed or loses its power. -/
inductive Leaves (sha256 : Sha256) (invocation : Invocation) (before : PolicyWorld) :
    List PolicyExchange → PolicyWorld → Prop where
  /-- It is killed behind these exchanges, or does not succeed. -/
  | stopped {log : List PolicyExchange} {after : PolicyWorld}
      {outcome : Option (Except Failure Unit)}
      (cut : Cut (configureDockerNetwork invocation).run log outcome)
      (unsuccessful : outcome ≠ some (.ok ()))
      (seen : observed (PolicyWorld.observe sha256) before log = some after) :
      Leaves sha256 invocation before log after
  /-- Only what the first part of the run has done is left. -/
  | powerLoss {kept lost : List PolicyExchange} {after : PolicyWorld}
      (cut : Cut (configureDockerNetwork invocation).run (kept ++ lost) none)
      (seen : observed (PolicyWorld.observe sha256) before kept = some after) :
      Leaves sha256 invocation before kept after

/-- The hash of the file that a run has left is recorded: the file has not been replaced, or its digest
was already on record, or all of its digest has been written. -/
def HashRecorded (sha256 : Sha256) (before : PolicyWorld) (log : List PolicyExchange)
    (managed : ManagedFile) : Prop :=
  match (course managed log).stage with
  | .untouched => True
  | .renamed => (before.contents managed.hash).map firstLine =
      some (sha256.sum (course managed log).prepared)
  | .recording written => (sha256.sum (course managed log).prepared).length ≤ written

/-- The run has not been interrupted while it held the lock, nor between the replacement of a managed file
and the record of its hash. -/
structure Recoverable (sha256 : Sha256) (before : PolicyWorld) (log : List PolicyExchange) : Prop where
  released : lockHeld log = false
  recorded : ∀ managed, HashRecorded sha256 before log managed

section Interrupted

variable {sha256 : Sha256} {invocation : Invocation} {before after : PolicyWorld}
  {log : List PolicyExchange} {managed : ManagedFile}

/-- Whether the lock is held at the end of a log can be read off its calls. -/
theorem locked_of_observed (seen : observed (PolicyWorld.observe sha256) before log = some after) :
    after.locked = log.foldl locks before.locked := by
  induction log generalizing before with
  | nil =>
      cases seen
      rfl
  | cons exchange log ih =>
      obtain ⟨next, moved, rest⟩ := Option.bind_eq_some_iff.mp seen
      rw [PolicyWorld.observe, Option.ite_none_right_eq_some] at moved
      obtain ⟨-, moved⟩ := moved
      cases moved
      have here : (before.effect exchange).locked = locks before.locked exchange := by
        obtain ⟨call, answer⟩ := exchange
        cases call with
        | openOutput | move | remove | makeLock | removeLock => rcases answer with (_ | _) | _ <;> rfl
        | write => rcases answer with (_ | _) | _ <;> rfl
        | _ => rfl
      rw [List.foldl_cons, ← here]
      exact ih rest

/-- A run that is killed behind a first part of its exchanges. -/
theorem cut_prefix {kept lost : List PolicyExchange} {outcome : Option (Except Failure Unit)}
    {program : Interaction PolicyCall PolicyCall.Answer (Except Failure Unit)}
    (cut : Cut program (kept ++ lost) outcome) : Cut program kept none := by
  induction kept generalizing program with
  | nil => exact .killed program
  | cons exchange kept ih =>
      cases cut with
      | ask call next answer rest => exact .ask call next answer (ih rest)

/-- What a run leaves behind is what one of its cuts has done. -/
theorem Leaves.cut (leaves : Leaves sha256 invocation before log after) :
    ∃ outcome, Cut (configureDockerNetwork invocation).run log outcome ∧
      observed (PolicyWorld.observe sha256) before log = some after := by
  cases leaves with
  | stopped cut _ seen => exact ⟨_, cut, seen⟩
  | powerLoss cut seen => exact ⟨_, cut_prefix cut, seen⟩

/-- A digest is recorded by its first line when all of it has been written. -/
theorem recorded_iff {digest : Contents} (oneLine : '\n' ∉ digest) {written : Nat} :
    firstLine ((digest ++ ['\n']).take written) = digest ↔ digest.length ≤ written := by
  rw [firstLine_take oneLine, List.take_eq_self_iff]

/-- A file that was admitted before is admitted behind a run exactly when its hash is recorded. -/
theorem admits_iff {published later : ManagedFile → List Contents} (fit : before.Admits sha256 managed)
    (standing : Standing sha256 ⟨before, published⟩ managed
      (view managed (⟨after, later⟩, course managed log))) :
    after.Admits sha256 managed ↔ HashRecorded sha256 before log managed := by
  have stands := standing.stands
  have filled := standing.filled
  rw [HashRecorded]
  have replaced : after.contents managed.file = some (course managed log).prepared →
      (managed = .daemonJson → (course managed log).prepared ≠ []) →
      (after.Admits sha256 managed ↔ (after.contents managed.hash).map firstLine =
        some (sha256.sum (course managed log).prepared)) := by
    intro file nonEmpty
    constructor
    · intro admits
      exact (admits _ file).resolve_left fun empty => nonEmpty empty.1 empty.2
    · intro recorded contents there
      rw [file] at there
      cases there
      exact .inr recorded
  simp only [view] at stands filled
  cases stage : (course managed log).stage with
  | untouched =>
      rw [stage] at stands
      obtain ⟨file, hash, -⟩ := stands
      have file : after.contents managed.file = before.contents managed.file := file
      have hash : after.contents managed.hash = before.contents managed.hash := hash
      have admits : after.Admits sha256 managed := by
        intro contents there
        rw [hash]
        exact fit contents (file ▸ there)
      exact iff_of_true admits trivial
  | renamed =>
      rw [stage] at stands filled
      obtain ⟨file, hash, -⟩ := stands
      have hash : after.contents managed.hash = before.contents managed.hash := hash
      rw [replaced file (filled (by rintro ⟨⟩)), hash]
  | recording written =>
      rw [stage] at stands filled
      obtain ⟨file, hash, -⟩ := stands
      have hash : after.contents managed.hash =
          some ((sha256.sum (course managed log).prepared ++ ['\n']).take written) := hash
      rw [replaced file (filled (by rintro ⟨⟩)), hash, Option.map_some, Option.some_inj,
        recorded_iff (sha256.oneLine _)]

/-- The next run succeeds exactly when the interrupted one is recoverable: it was not cut while it held
the lock, nor between a managed file and its recorded hash. -/
theorem succeeds_iff {host later : Host} {pid : Nat} (alike : host.Alike later)
    (succeeds : Succeeds sha256 host invocation before)
    (leaves : Leaves sha256 invocation before log after) :
    Succeeds sha256 later { invocation with pid := pid } after ↔ Recoverable sha256 before log := by
  obtain ⟨outcome, cut, seen⟩ := leaves.cut
  have fit := fit_of_succeeds succeeds
  obtain ⟨published, tracked⟩ := observed_tracked seen fun _ => []
  have locked : after.locked = lockHeld log := by
    rw [locked_of_observed seen, fit.unlocked]
    rfl
  have admits : ∀ managed, after.Admits sha256 managed ↔ HashRecorded sha256 before log managed :=
    fun managed => admits_iff (fit.admits managed) (standing_of_cut cut tracked)
  constructor
  · intro again
    have left := fit_of_succeeds again
    exact ⟨locked ▸ left.unlocked, fun managed => (admits managed).mp (left.admits managed)⟩
  · intro recoverable
    have left : after.Fit sha256 :=
      ⟨locked.trans recoverable.released, fun managed => (admits managed).mpr (recoverable.recorded managed)⟩
    exact (succeeds_of_fit alike succeeds left).1

/-- daemon.json has not been replaced, or by what it was. -/
def KeepsDaemonJson (before : PolicyWorld) (log : List PolicyExchange) : Prop :=
  (course .daemonJson log).stage = .untouched ∨
    before.contents .daemonJson = some (course .daemonJson log).prepared

/-- At a cut daemon.json is as before exactly if it was not renamed over, or with the same contents. -/
theorem daemonJson_iff {outcome : Option (Except Failure Unit)}
    (cut : Cut (configureDockerNetwork invocation).run log outcome)
    (seen : observed (PolicyWorld.observe sha256) before log = some after) :
    after.contents .daemonJson = before.contents .daemonJson ↔ KeepsDaemonJson before log := by
  obtain ⟨published, tracked⟩ := observed_tracked seen fun _ => []
  have standing : Standing sha256 ⟨before, fun _ => []⟩ .daemonJson
      (view .daemonJson (⟨after, published⟩, course .daemonJson log)) := standing_of_cut cut tracked
  have stands := standing.stands
  simp only [view] at stands
  rw [KeepsDaemonJson]
  cases stage : (course .daemonJson log).stage with
  | untouched =>
      rw [stage] at stands
      exact iff_of_true stands.1 (.inl rfl)
  | renamed =>
      rw [stage] at stands
      have file : after.contents .daemonJson = some (course .daemonJson log).prepared := stands.1
      rw [file]
      simp [eq_comm]
  | recording written =>
      rw [stage] at stands
      have file : after.contents .daemonJson = some (course .daemonJson log).prepared := stands.1
      rw [file]
      simp [eq_comm]

end Interrupted

/-! ### Result -/

/-- After an interrupted run the next one with the same arguments succeeds exactly when the first was not
interrupted under its lock or before a hash was recorded; and a run that fails has kept daemon.json
exactly when it has not replaced it by something else. -/
theorem policy_recoverable_iff {sha256 : Sha256} {invocation : Invocation} {before after : PolicyWorld}
    {log : List PolicyExchange} :
    (∀ (host later : Host) (pid : Nat), host.Alike later → Succeeds sha256 host invocation before →
      Leaves sha256 invocation before log after →
      (Succeeds sha256 later { invocation with pid := pid } after ↔ Recoverable sha256 before log)) ∧
    (∀ failure, Runs (configureDockerNetwork invocation).run log (.error failure) →
      observed (PolicyWorld.observe sha256) before log = some after →
      (after.contents .daemonJson = before.contents .daemonJson ↔ KeepsDaemonJson before log)) :=
  ⟨fun _ _ _ alike succeeds leaves => succeeds_iff alike succeeds leaves,
    fun _ run seen => daemonJson_iff (cut_some.mpr run) seen⟩

/-- On an empty system the sample run succeeds. -/
theorem sample_succeeds : Succeeds sampleSha256 sampleHost sampleInvocation emptyWorld := by
  have ends : (sampleRun emptyWorld).2.isOk = true := by decide +kernel
  rw [Succeeds]
  show (sampleRun emptyWorld).2 = .ok ()
  cases result : (sampleRun emptyWorld).2 with
  | ok value => rfl
  | error failure =>
      rw [result] at ends
      cases ends

/-- What a kill behind so many calls leaves. -/
theorem sample_leaves (calls : Nat)
    (observes : (observed (PolicyWorld.observe sampleSha256) emptyWorld
      ((sampleLog emptyWorld).take calls)).isSome = true) : ∃ after,
    Leaves sampleSha256 sampleInvocation emptyWorld ((sampleLog emptyWorld).take calls) after := by
  obtain ⟨after, seen⟩ := Option.isSome_iff_exists.mp observes
  exact ⟨after, .stopped ((runs_log _ _ _).killed calls) nofun seen⟩

/-- The same system, but the file of the new wrapper cannot be given to root. -/
def brokenHost : Host :=
  { sampleHost with
    command := fun words =>
      if words = ["chown", "0:0", PolicyFile.wrapperTemporary.path] then ⟨1, []⟩
      else sampleHost.command words }

/-- A run there: daemon.json is replaced and its digest recorded, and the wrapper is not installed. -/
def brokenLog : List PolicyExchange :=
  (configureDockerNetwork sampleInvocation).run.log (brokenHost.environment sampleSha256) emptyWorld

/-- Along this log the policy fails behind the rename of daemon.json. -/
theorem brokenLog_runs : ∃ failure,
    Runs (configureDockerNetwork sampleInvocation).run brokenLog (.error failure) := by
  have run := runs_log (brokenHost.environment sampleSha256)
    (configureDockerNetwork sampleInvocation).run emptyWorld
  have fails : ((configureDockerNetwork sampleInvocation).run.execute
      (brokenHost.environment sampleSha256) emptyWorld).2.isOk = false := by
    decide +kernel
  cases result : ((configureDockerNetwork sampleInvocation).run.execute
      (brokenHost.environment sampleSha256) emptyWorld).2 with
  | ok value =>
      rw [result] at fails
      cases fails
  | error failure =>
      rw [result] at run
      exact ⟨failure, run⟩

/-- Along it the whole digest of the new daemon.json is written, the wrapper is not touched, and the lock
is given back. -/
theorem brokenLog_course : lockHeld brokenLog = false ∧
    (course .daemonJson brokenLog).stage = .recording 65 ∧
    (sampleSha256.sum (course .daemonJson brokenLog).prepared).length ≤ 65 ∧
    (course .dockerWrapper brokenLog).stage = .untouched := by decide +kernel

/-- Behind the failure of that run daemon.json is another one, and the next run succeeds. -/
theorem policy_recoverable_iff_after_failure : ∃ after : PolicyWorld,
    Leaves sampleSha256 sampleInvocation emptyWorld brokenLog after ∧
      after.contents .daemonJson ≠ emptyWorld.contents .daemonJson ∧
      Succeeds sampleSha256 sampleHost sampleInvocation after := by
  obtain ⟨failure, run⟩ := brokenLog_runs
  have seen : observed (PolicyWorld.observe sampleSha256) emptyWorld brokenLog =
      some ((configureDockerNetwork sampleInvocation).run.execute
        (brokenHost.environment sampleSha256) emptyWorld).1 :=
    observed_log observe_host _ emptyWorld
  obtain ⟨released, recorded, whole, untouched⟩ := brokenLog_course
  have leaves := Leaves.stopped (cut_some.mpr run) nofun seen
  refine ⟨_, leaves, fun same => ?_, (policy_recoverable_iff.1 sampleHost sampleHost 4242 rfl
    sample_succeeds leaves).mpr ⟨released, fun managed => ?_⟩⟩
  · rcases (policy_recoverable_iff.2 failure run seen).mp same with untouched | kept
    · rw [recorded] at untouched
      cases untouched
    · cases kept
  · cases managed with
    | daemonJson =>
        rw [HashRecorded, recorded]
        exact whole
    | dockerWrapper =>
        rw [HashRecorded, untouched]
        trivial

/-- A rootfs with a wrapper of the user's. -/
def ownWrapper : PolicyWorld := emptyWorld.put .dockerWrapper (some "#!/bin/sh".toList)

/-- A run is killed while it holds the lock; a run fails at the wrapper behind the new daemon.json. -/
theorem policy_not_recoverable :
    (¬∀ (sha256 : Sha256) (host later : Host) (invocation : Invocation) (pid : Nat)
      (before after : PolicyWorld) (log : List PolicyExchange), host.Alike later →
        Succeeds sha256 host invocation before → Leaves sha256 invocation before log after →
          Succeeds sha256 later { invocation with pid := pid } after) ∧
    ¬∀ (sha256 : Sha256) (invocation : Invocation) (before after : PolicyWorld)
      (log : List PolicyExchange) (failure : Failure),
        Runs (configureDockerNetwork invocation).run log (.error failure) →
          observed (PolicyWorld.observe sha256) before log = some after →
            after.contents .daemonJson = before.contents .daemonJson := by
  constructor
  · intro recovers
    have stopped : (observed (PolicyWorld.observe sampleSha256) emptyWorld
        ((sampleLog emptyWorld).take 60)).isSome = true ∧
          lockHeld ((sampleLog emptyWorld).take 60) = true := by decide +kernel
    obtain ⟨after, leaves⟩ := sample_leaves 60 stopped.1
    have again := recovers sampleSha256 sampleHost sampleHost sampleInvocation 4242 emptyWorld after _
      rfl sample_succeeds leaves
    have recoverable := (succeeds_iff rfl sample_succeeds leaves).mp again
    exact absurd (stopped.2.symm.trans recoverable.released) nofun
  · intro keeps
    have ends : (sampleRun ownWrapper).2.isOk = false ∧
        (sampleRun ownWrapper).1.contents .daemonJson ≠ none := by decide +kernel
    obtain ⟨fails, replaced⟩ := ends
    cases result : (sampleRun ownWrapper).2 with
    | ok value =>
        rw [result] at fails
        cases fails
    | error failure =>
        have run : Runs (configureDockerNetwork sampleInvocation).run (sampleLog ownWrapper)
            (.error failure) := result ▸ runs_log _ _ ownWrapper
        exact replaced (keeps sampleSha256 sampleInvocation ownWrapper _ _ failure run
          (observed_log observe_host _ ownWrapper))

end DawnShell.Docker
