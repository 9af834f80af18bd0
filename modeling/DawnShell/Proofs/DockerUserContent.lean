/-
Module: DawnShell.Proofs.DockerUserContent
Layer: Proofs
Purpose: The script of the Docker policy does not overwrite what the user has put in place of its files.  A
  recorded hash is always the hash of something that a run has renamed to the file, also when the run was
  killed while it recorded it; so a file that passes the check is absent, empty, or the script's own.
Trusted boundary: none
Main exports: Deed, Stepped, Tracked.MayReplace, Tracked.Recorded, recorded_step, user_content_preserved
-/
import DawnShell.Lib.Transition
import DawnShell.Proofs.DockerStages

namespace DawnShell.Docker

open Interaction Transition

variable {sha256 : Sha256} {managed : ManagedFile} {tracked next : Tracked}

/-! ### Statement -/

/-- What happens to a rootfs over time. -/
inductive Deed where
  /-- The user writes or removes one of the files. -/
  | edit (managed : ManagedFile) (contents : Option Contents)
  /-- A run, with all it has exchanged until it has ended or was killed. -/
  | run (invocation : Invocation) (log : List PolicyExchange)

/-- One deed. -/
inductive Stepped (sha256 : Sha256) : Tracked → Deed → Tracked → Prop where
  | edit (tracked : Tracked) (managed : ManagedFile) (contents : Option Contents) :
      Stepped sha256 tracked (.edit managed contents)
        { tracked with world := tracked.world.put managed.file contents }
  | run {tracked next : Tracked} (invocation : Invocation) (log : List PolicyExchange)
      {outcome : Option (Except Failure Unit)}
      (cut : Cut (configureDockerNetwork invocation).run log outcome)
      (seen : observed (Tracked.observe sha256) tracked log = some next) :
      Stepped sha256 tracked (.run invocation log) next

/-- No run has been made yet. -/
structure Tracked.Unmanaged (tracked : Tracked) : Prop where
  hash : ∀ managed : ManagedFile, tracked.world.contents managed.hash = none
  published : ∀ managed, tracked.published managed = []

/-- The file is absent, an empty daemon.json, or byte-equal to something that a run has renamed to it. -/
def Tracked.MayReplace (tracked : Tracked) (managed : ManagedFile) : Prop :=
  ∀ contents, tracked.world.contents managed.file = some contents →
    (managed = .daemonJson ∧ contents = []) ∨ contents ∈ tracked.published managed

/-! ### Recorded hashes -/

/-- The first line of a hash file that has been written in part is that part of the digest. -/
theorem firstLine_take {digest : Contents} (oneLine : '\n' ∉ digest) (written : Nat) :
    firstLine ((digest ++ ['\n']).take written) = digest.take written := by
  have plain : ∀ char ∈ digest.take written, (char != '\n') = true := by
    intro char member
    have other : char ≠ '\n' := fun same => oneLine (same ▸ List.mem_of_mem_take member)
    simpa using other
  rw [List.take_append, firstLine, List.takeWhile_append_of_pos plain]
  cases written - digest.length <;> simp

/-- A recorded hash is the hash of something that has been renamed to the file. -/
def Tracked.Recorded (sha256 : Sha256) (tracked : Tracked) : Prop :=
  ∀ (managed : ManagedFile) (contents : Contents),
    (tracked.world.contents managed.hash).map firstLine = some (sha256.sum contents) →
      contents ∈ tracked.published managed

/-- Where nothing is recorded, what is recorded was published. -/
theorem Tracked.Unmanaged.recorded (unmanaged : tracked.Unmanaged) : tracked.Recorded sha256 := by
  intro managed contents recorded
  rw [unmanaged.hash managed] at recorded
  cases recorded

/-- What a run leaves, wherever it ends: a digest on record is that of contents which this run or an
earlier one has published. -/
theorem recorded_of_standing {course : Course} (held : tracked.Recorded sha256)
    (standing : Standing sha256 tracked managed (view managed (next, course))) {contents : Contents}
    (recorded : (next.world.contents managed.hash).map firstLine = some (sha256.sum contents)) :
    contents ∈ next.published managed := by
  have stands := standing.stands
  cases stage : (view managed (next, course)).course.stage with
  | untouched =>
      rw [stage] at stands
      obtain ⟨-, hash, published⟩ := stands
      have hash : next.world.contents managed.hash = tracked.world.contents managed.hash := hash
      have published : next.published managed = tracked.published managed := published
      rw [hash] at recorded
      rw [published]
      exact held managed contents recorded
  | renamed =>
      rw [stage] at stands
      obtain ⟨-, hash, published⟩ := stands
      have hash : next.world.contents managed.hash = tracked.world.contents managed.hash := hash
      have published : next.published managed = course.prepared :: tracked.published managed := published
      rw [hash] at recorded
      rw [published]
      exact .tail _ (held managed contents recorded)
  | recording written =>
      rw [stage] at stands
      obtain ⟨-, hash, published⟩ := stands
      have hash : next.world.contents managed.hash =
          some ((sha256.sum course.prepared ++ ['\n']).take written) := hash
      have published : next.published managed = course.prepared :: tracked.published managed := published
      rw [hash, Option.map_some, firstLine_take (sha256.oneLine _)] at recorded
      -- A part of a digest is a digest only when it is the whole.
      have part : sha256.sum contents <+: sha256.sum course.prepared :=
        Option.some.inj recorded ▸ List.take_prefix _ _
      rw [published, sha256.injective (sha256.apart _ _ part)]
      exact .head _

/-- Whether the user edits files or a run ends, fails or is killed, a digest on record is that of
contents that a run has published. -/
theorem recorded_step {deed : Deed} (held : tracked.Recorded sha256)
    (stepped : Stepped sha256 tracked deed next) : next.Recorded sha256 := by
  cases stepped with
  | edit edited contents =>
      intro managed contents recorded
      apply held managed contents
      have apart : managed.hash ≠ edited.file := by cases managed <;> cases edited <;> decide
      simpa only [put_contents_of_ne apart] using recorded
  | run invocation log cut seen =>
      intro managed contents recorded
      exact recorded_of_standing held (standing_of_cut cut seen) recorded

theorem Tracked.Recorded.mayReplace (held : tracked.Recorded sha256)
    (admits : tracked.world.Admits sha256 managed) : tracked.MayReplace managed := by
  intro contents there
  rcases admits contents there with empty | recorded
  · exact .inl empty
  · exact .inr (held managed contents recorded)

/-! ### Result -/

/-- Whatever the user edits and however the runs end, a run touches a managed file only when the run has
found it absent, as an empty daemon.json, or byte-equal to something that an earlier run published. -/
theorem user_content_preserved {first tracked last : Tracked} {trace : List (Tracked × Deed)}
    (unmanaged : first.Unmanaged) (history : Run (Stepped sha256) first trace tracked)
    {invocation : Invocation} {log : List PolicyExchange} {outcome : Option (Except Failure Unit)}
    (run : Cut (configureDockerNetwork invocation).run log outcome)
    (seen : observed (Tracked.observe sha256) tracked log = some last) {exchange : PolicyExchange}
    (member : exchange ∈ log) (touches : exchange.call.touches managed.file = true) :
    tracked.MayReplace managed := by
  have held : tracked.Recorded sha256 := by
    have always : Meets (fun (_ : Tracked) (_ : Deed) => True) trace := fun _ _ => trivial
    apply history.invariant always unmanaged.recorded
    intro before deed after held _ stepped
    exact recorded_step held stepped
  have standing : Standing sha256 tracked managed (view managed (last, course managed log)) :=
    standing_of_cut run seen
  apply held.mayReplace
  apply standing.admitted
  show (course managed log).touched = true
  rw [course_touched]
  exact List.any_eq_true.mpr ⟨exchange, member, touches⟩

/-! ### A second run -/

/-- A byte of other contents in their stand-in for a digest. -/
def escape : Char → Contents
  | '\n' => ['n']
  | char => ['\\', char]

@[simp] theorem escape_newline : escape '\n' = ['n'] := rfl

/-- Every character but the newline is escaped by a backslash in front of it. -/
theorem escape_of_ne {char : Char} (other : char ≠ '\n') : escape char = ['\\', char] := by
  unfold escape
  split
  · exact absurd rfl other
  · rfl

/-- No escaped text with its final point is the beginning of another, which makes the sample digest one
without collisions. -/
theorem eq_of_escaped {first second : Contents}
    (part : first.flatMap escape ++ ['.'] <+: second.flatMap escape ++ ['.']) : first = second := by
  induction first generalizing second with
  | nil =>
      cases second with
      | nil => rfl
      | cons char rest =>
          by_cases newline : char = '\n'
          · simp [newline] at part
          · simp [escape_of_ne newline] at part
  | cons char first ih =>
      cases second with
      | nil =>
          by_cases newline : char = '\n'
          · simp [newline] at part
          · simp [escape_of_ne newline] at part
      | cons other rest =>
          by_cases newline : char = '\n' <;> by_cases newline' : other = '\n'
          · simp only [newline, newline', escape_newline, List.flatMap_cons,
              List.cons_append, List.nil_append, List.cons_prefix_cons, true_and] at part ⊢
            rw [ih part]
          · simp [newline, escape_of_ne newline'] at part
          · simp [newline', escape_of_ne newline] at part
          · simp only [escape_of_ne newline, escape_of_ne newline', List.flatMap_cons,
              List.cons_append, List.nil_append, List.cons_prefix_cons, true_and] at part
            rw [part.1, ih part.2]

/-- The wrapper of the sample runs. -/
def sampleWrapper : Contents := lines ["#!/bin/bash", "set -e"]

/-- The digests of the files of the sample runs, and something else for other contents. -/
def sampleSum (contents : Contents) : Contents :=
  if contents = configuration .none .overlay2 then
    "d86821bd8d50e0cb346f9a1d3945968a635ea8a994414d2239019748369a035f".toList
  else if contents = sampleWrapper then
    "000b424d7145eefd09891911e3794d8def5a9608cf1102ce8a2eecbba5ac0a46".toList
  else '.' :: (contents.flatMap escape ++ ['.'])

theorem sampleSum_cases (contents : Contents) :
    (contents = configuration .none .overlay2 ∧ sampleSum contents =
      "d86821bd8d50e0cb346f9a1d3945968a635ea8a994414d2239019748369a035f".toList) ∨
    (contents = sampleWrapper ∧ sampleSum contents =
      "000b424d7145eefd09891911e3794d8def5a9608cf1102ce8a2eecbba5ac0a46".toList) ∨
    sampleSum contents = '.' :: (contents.flatMap escape ++ ['.']) := by
  unfold sampleSum
  split
  next here => exact .inl ⟨here, rfl⟩
  next =>
    split
    next here => exact .inr (.inl ⟨here, rfl⟩)
    next => exact .inr (.inr rfl)

/-- No sample digest is the beginning of another. -/
theorem eq_of_sampleSum {first second : Contents} (part : sampleSum first <+: sampleSum second) :
    first = second := by
  rcases sampleSum_cases first with ⟨one, digest⟩ | ⟨one, digest⟩ | digest <;>
    rcases sampleSum_cases second with ⟨two, digest'⟩ | ⟨two, digest'⟩ | digest' <;>
      rw [digest, digest'] at part
  · rw [one, two]
  · exact absurd part (by decide)
  · exact absurd (List.cons_prefix_cons.mp part).1 (by decide)
  · exact absurd part (by decide)
  · rw [one, two]
  · exact absurd (List.cons_prefix_cons.mp part).1 (by decide)
  · exact absurd (List.cons_prefix_cons.mp part).1 (by decide)
  · exact absurd (List.cons_prefix_cons.mp part).1 (by decide)
  · exact eq_of_escaped (List.cons_prefix_cons.mp part).2

theorem newline_notMem_escape (char : Char) : '\n' ∉ escape char := by
  by_cases newline : char = '\n'
  · rw [newline]
    decide
  · rw [escape_of_ne newline]
    simp [Ne.symm newline]

def sampleSha256 : Sha256 where
  sum := sampleSum
  injective first second same := eq_of_sampleSum (same ▸ List.prefix_rfl)
  apart first second part := congrArg sampleSum (eq_of_sampleSum part)
  nonEmpty contents := by
    rcases sampleSum_cases contents with ⟨-, digest⟩ | ⟨-, digest⟩ | digest <;> rw [digest]
    · decide
    · decide
    · exact List.cons_ne_nil _ _
  oneLine contents := by
    rcases sampleSum_cases contents with ⟨-, digest⟩ | ⟨-, digest⟩ | digest <;> rw [digest]
    · decide
    · decide
    · simp [newline_notMem_escape]

/-- A system on which every command succeeds. -/
def sampleHost : Host where
  command words :=
    ⟨0, if words = ["id", "-u"] then "0".toList
      else if words = ["stat", "-c", "%u:%g", root] then "0:0".toList
      else if words = ["cd", "-P", root, "&&", "pwd", "-P"] then root.toList
      else if words = ["source", "/etc/os-release"] then "trixie".toList
      else []⟩
  epoch := "1700000000".toList

/-- The policy without a bridge. -/
def sampleInvocation : Invocation where
  arguments := [root, "/data/user_de/0/me.aroxu.dawnshell/files/bfu", "host", "arm64", "true",
    "overlay2"]
  wrapper := sampleWrapper
  pid := 4242

/-- A rootfs without Docker. -/
def emptyWorld : PolicyWorld where
  contents _ := none
  locked := false

/-- The script on the sample system. -/
def sampleRun (world : PolicyWorld) : PolicyWorld × Except Failure Unit :=
  (configureDockerNetwork sampleInvocation).run.execute (sampleHost.environment sampleSha256) world

/-- The exchanges of that run. -/
def sampleLog (world : PolicyWorld) : List PolicyExchange :=
  (configureDockerNetwork sampleInvocation).run.log (sampleHost.environment sampleSha256) world

/-- A system on which nothing fails by chance gives possible answers, so that its runs are among those
of the theorem. -/
theorem observe_host {sha256 : Sha256} {host : Host} (world : PolicyWorld) (call : PolicyCall) :
    world.observe sha256 ((host.environment sha256).exchange world call) =
      some ((host.environment sha256).after world call) := by
  have possible : world.possible sha256 ((host.environment sha256).exchange world call) = true := by
    cases call with
    | firstLine file =>
        cases there : world.contents file <;>
          simp [Environment.exchange, Host.environment, PolicyWorld.possible, there]
    | sha256sum file =>
        cases there : world.contents file <;>
          simp [Environment.exchange, Host.environment, PolicyWorld.possible, there]
    | move source destination =>
        cases there : world.contents source <;>
          simp [Environment.exchange, Host.environment, PolicyWorld.possible, there]
    | makeLock =>
        cases locked : world.locked <;>
          simp [Environment.exchange, Host.environment, PolicyWorld.possible, locked]
    | removeLock =>
        cases locked : world.locked <;> cases owner : world.contents .owner <;>
          simp [Environment.exchange, Host.environment, PolicyWorld.possible, locked, owner]
    | _ => simp [Environment.exchange, Host.environment, PolicyWorld.possible]
  rw [PolicyWorld.observe, if_pos possible]
  rfl

theorem sample_stepped (world : PolicyWorld) (published : ManagedFile → List Contents) :
    ∃ later, observed (Tracked.observe sampleSha256) ⟨world, published⟩ (sampleLog world) =
      some ⟨(sampleRun world).1, later⟩ :=
  observed_tracked (observed_log observe_host _ world) published

/-- The sample run goes to its end in every world. -/
theorem sample_cut (world : PolicyWorld) :
    Cut (configureDockerNetwork sampleInvocation).run (sampleLog world) (some (sampleRun world).2) :=
  cut_some.mpr (runs_log _ _ world)

/-- A second run renames over the daemon.json of the first, whose digest is on record. -/
theorem user_content_preserved_again : ∃ tracked : Tracked,
    tracked.world.contents .daemonJson = some (configuration .none .overlay2) ∧
      tracked.MayReplace .daemonJson := by
  obtain ⟨published, first⟩ := sample_stepped emptyWorld fun _ => []
  obtain ⟨later, second⟩ := sample_stepped (sampleRun emptyWorld).1 published
  have history : Run (Stepped sampleSha256) ⟨emptyWorld, fun _ => []⟩ _
      ⟨(sampleRun emptyWorld).1, published⟩ :=
    .step .start (.run sampleInvocation (sampleLog emptyWorld) (sample_cut emptyWorld) first)
  have replaced : (sampleRun emptyWorld).1.contents .daemonJson = some (configuration .none .overlay2) ∧
      ((sampleLog (sampleRun emptyWorld).1).any fun exchange =>
        exchange.call.touches ManagedFile.daemonJson.file) = true := by decide +kernel
  obtain ⟨own, replaces⟩ := replaced
  obtain ⟨exchange, member, touches⟩ := List.any_eq_true.mp replaces
  exact ⟨_, own, user_content_preserved ⟨fun _ => rfl, fun _ => rfl⟩ history
    (sample_cut (sampleRun emptyWorld).1) second member touches⟩

end DawnShell.Docker
