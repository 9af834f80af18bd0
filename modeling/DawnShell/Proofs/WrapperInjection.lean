/-
Module: DawnShell.Proofs.WrapperInjection
Layer: Proofs
Purpose: What the wrapper adds to `docker run` and `docker create`.  It looks for the user's own choices in
  all words of the command, so that it adds what belongs there exactly if no value of an option, no image
  and no argument of the container reads as such a choice.
Trusted boundary: none
Main exports: DockerOption, RunCommand, RunCommand.Injects, RunCommand.Undisturbed, injects_iff
-/
import Mathlib.Data.List.Infix
import DawnShell.Docker.Wrapper

namespace DawnShell.Docker

/-! ### Statement -/

/-- An option of the client, with its value if that is a word of its own. -/
inductive DockerOption where
  | alone (token : Word)
  | valued (token value : Word)
deriving DecidableEq, Repr

namespace DockerOption

def token : DockerOption → Word
  | alone token | valued token _ => token

def words : DockerOption → List Word
  | alone token => [token]
  | valued token value => [token, value]

def values : DockerOption → List Word
  | alone _ => []
  | valued _ value => [value]

/-- An option `--ipc`. -/
def isIpc (option : DockerOption) : Bool := readsIpc option.token

/-- An option `--network` or `--net`. -/
def isNetwork (option : DockerOption) : Bool := readsNetwork option.token

/-- An option that adds the group 3003. -/
def addsInetGroup (option : DockerOption) : Bool :=
  option == .valued groupAdd inetGroup || option.token == groupAddInet

end DockerOption

/-- A command `[container] run|create OPTIONS IMAGE ARGS`. -/
structure RunCommand where
  /-- Whether `container` stands in front. -/
  grouped : Bool
  /-- `run` or `create`. -/
  verb : Word
  isRun : verb ∈ runWords
  options : List DockerOption
  /-- The image and the arguments of the container. -/
  imageAndArgs : List Word

namespace RunCommand

/-- The words up to `run` or `create`. -/
def front (command : RunCommand) : List Word :=
  if command.grouped then ["container".toList, command.verb] else [command.verb]

/-- The words of the options. -/
def optionWords (command : RunCommand) : List Word := command.options.flatMap DockerOption.words

/-- The words behind `run` or `create`. -/
def behind (command : RunCommand) : List Word := command.optionWords ++ command.imageAndArgs

/-- The words that are no names of options. -/
def otherWords (command : RunCommand) : List Word :=
  command.options.flatMap DockerOption.values ++ command.imageAndArgs

/-- What the client is executed with: one block is added behind `run` or `create`, with exactly what is
switched on and not among the options. -/
def Injects (command : RunCommand) (settings : WrapperSettings) (outcome : WrapperOutcome) : Prop :=
  ∃ block, outcome = .exec (command.front ++ block ++ command.behind) none ∧
    (["--ipc=host".toList] <:+: block ↔
      settings.hostIpc = trueWord ∧ ∀ option ∈ command.options, option.isIpc = false) ∧
    ([groupAdd, inetGroup] <:+: block ↔ ∀ option ∈ command.options, option.addsInetGroup = false) ∧
    (["--network".toList, "host".toList] <:+: block ↔
      settings.hostNetwork = trueWord ∧ ∀ option ∈ command.options, option.isNetwork = false)

/-- Each choice is switched off, or is among the options, or nothing else reads as it. -/
structure Undisturbed (command : RunCommand) (settings : WrapperSettings) : Prop where
  ipc : settings.hostIpc ≠ trueWord ∨ (∃ option ∈ command.options, option.isIpc = true) ∨
    ∀ word ∈ command.otherWords, readsIpc word = false
  inetGroup : (∃ option ∈ command.options, option.addsInetGroup = true) ∨
    (groupAddInet ∉ command.otherWords ∧ ¬[groupAdd, inetGroup] <:+: command.behind)
  network : settings.hostNetwork ≠ trueWord ∨ (∃ option ∈ command.options, option.isNetwork = true) ∨
    ∀ word ∈ command.otherWords, readsNetwork word = false

end RunCommand

/-! ### The scan -/

section Scan

variable {words rest : List Word} {scan : ArgumentScan} {word : Word}

/-- A flag that every argument can set is set when one of them does. -/
theorem foldl_flag {flag : ArgumentScan → Bool} {reads : Word → Bool}
    (step : ∀ scan word, flag (scanArgument scan word) = (flag scan || reads word)) :
    flag (words.foldl scanArgument scan) = (flag scan || words.any reads) := by
  induction words generalizing scan with
  | nil => simp
  | cons word words ih => rw [List.foldl_cons, ih, step, List.any_cons, Bool.or_assoc]

/-- Two words follow each other at the front or later. -/
theorem pair_infix_cons {first second next : Word} :
    [first, second] <:+: word :: next :: rest ↔
      (word = first ∧ next = second) ∨ [first, second] <:+: next :: rest := by
  rw [List.infix_cons_iff, List.cons_prefix_cons, List.cons_prefix_cons, eq_comm, @eq_comm _ second]
  simp

/-- The group is seen as one word, or as two words that follow each other. -/
theorem foldl_explicitInetGroup : (words.foldl scanArgument scan).explicitInetGroup = true ↔
    scan.explicitInetGroup = true ∨ groupAddInet ∈ words ∨
      [groupAdd, inetGroup] <:+: scan.previous :: words := by
  induction words generalizing scan with
  | nil =>
      have short : ¬[groupAdd, inetGroup] <:+: [scan.previous] :=
        fun pair => absurd pair.length_le (Nat.not_succ_le_self 1)
      simp [short]
  | cons word words ih =>
      rw [List.foldl_cons, ih, pair_infix_cons, List.mem_cons]
      simp only [scanArgument, Bool.or_eq_true, Bool.and_eq_true, beq_iff_eq, @eq_comm _ groupAddInet]
      tauto

end Scan

/-! ### Commands -/

namespace RunCommand

variable {command : RunCommand} {settings : WrapperSettings} {word : Word}

/-- The words of a command. -/
def words (command : RunCommand) : List Word := command.front ++ command.behind

/-- A word behind the command names an option, or it is another word. -/
theorem mem_behind : word ∈ command.behind ↔
    (∃ option ∈ command.options, option.token = word) ∨ word ∈ command.otherWords := by
  have parts : ∀ option : DockerOption, word ∈ option.words ↔
      option.token = word ∨ word ∈ option.values := by
    intro option
    cases option with
    | alone token => simp [DockerOption.words, DockerOption.token, DockerOption.values, eq_comm]
    | valued token value => simp [DockerOption.words, DockerOption.token, DockerOption.values, eq_comm]
  simp only [behind, optionWords, otherWords, List.mem_append, List.mem_flatMap, parts]
  constructor
  · rintro (⟨option, member, token | value⟩ | last)
    · exact .inl ⟨option, member, token⟩
    · exact .inr (.inl ⟨option, member, value⟩)
    · exact .inr (.inr last)
  · rintro (⟨option, member, token⟩ | ⟨option, member, value⟩ | last)
    · exact .inl ⟨option, member, .inl token⟩
    · exact .inl ⟨option, member, .inr value⟩
    · exact .inr last

/-- A test of the words behind the command is one of the options and one of the other words. -/
theorem any_behind (reads : Word → Bool) : command.behind.any reads = true ↔
    (∃ option ∈ command.options, reads option.token = true) ∨
      ∃ word ∈ command.otherWords, reads word = true := by
  rw [List.any_eq_true]
  constructor
  · rintro ⟨word, member, holds⟩
    rcases mem_behind.mp member with ⟨option, within, rfl⟩ | other
    · exact .inl ⟨option, within, holds⟩
    · exact .inr ⟨word, other, holds⟩
  · rintro (⟨option, within, holds⟩ | ⟨word, other, holds⟩)
    · exact ⟨_, mem_behind.mpr (.inl ⟨option, within, rfl⟩), holds⟩
    · exact ⟨word, mem_behind.mpr (.inr other), holds⟩

/-- The words of an option follow each other. -/
theorem option_words_follow {option : DockerOption} (member : option ∈ command.options) :
    option.words <:+: command.behind := by
  obtain ⟨before, after, split⟩ := List.append_of_mem member
  refine ⟨before.flatMap DockerOption.words,
    after.flatMap DockerOption.words ++ command.imageAndArgs, ?_⟩
  simp [behind, optionWords, split]

/-- In front of the options stand only the names of the command. -/
theorem mem_front (member : word ∈ command.front) : word = "container".toList ∨ word ∈ runWords := by
  have verb := command.isRun
  rw [front] at member
  split at member
  · rcases List.mem_pair.mp member with rfl | rfl
    · exact .inl rfl
    · exact .inr verb
  · rw [List.mem_singleton.mp member]
    exact .inr verb

/-- The words in front of the options read as none of them. -/
theorem front_reads (member : word ∈ command.front) :
    readsIpc word = false ∧ readsNetwork word = false ∧ word ≠ groupAddInet ∧ word ≠ groupAdd := by
  have run : ∀ word ∈ "container".toList :: runWords,
      readsIpc word = false ∧ readsNetwork word = false ∧ word ≠ groupAddInet ∧ word ≠ groupAdd := by
    decide
  exact run word (List.mem_cons.mpr (mem_front member))

/-- What the wrapper has seen of the whole command, when the words in front of the options do not set the
flag. -/
theorem scan_flag {flag : ArgumentScan → Bool} {reads : Word → Bool}
    (step : ∀ scan word, flag (scanArgument scan word) = (flag scan || reads word))
    (start : flag {} = false) (front : ∀ word ∈ command.front, reads word = false) :
    flag (scanArguments command.words) = true ↔
      (∃ option ∈ command.options, reads option.token = true) ∨
        ∃ word ∈ command.otherWords, reads word = true := by
  have unset : command.front.any reads = false :=
    List.any_eq_false.mpr fun word member => by simp [front word member]
  rw [scanArguments, foldl_flag step, start, words, List.any_append, unset, Bool.false_or, Bool.false_or,
    any_behind]

/-- The wrapper finds an IPC option exactly if there is one among the options, or a word that looks like
one among the others. -/
theorem scan_ipc : (scanArguments command.words).explicitIpc = true ↔
    (∃ option ∈ command.options, option.isIpc = true) ∨
      ∃ word ∈ command.otherWords, readsIpc word = true :=
  scan_flag (fun _ _ => rfl) rfl fun _ member => (front_reads member).1

/-- The wrapper finds a network option exactly if there is one among the options, or a word that looks
like one among the others. -/
theorem scan_network : (scanArguments command.words).explicitNetwork = true ↔
    (∃ option ∈ command.options, option.isNetwork = true) ∨
      ∃ word ∈ command.otherWords, readsNetwork word = true :=
  scan_flag (fun _ _ => rfl) rfl fun _ member => (front_reads member).2.1

/-- A pair of words cannot begin in front of the options. -/
theorem pair_infix_front {front behind : List Word} (apart : ∀ word ∈ front, word ≠ groupAdd) :
    [groupAdd, inetGroup] <:+: front ++ behind ↔ [groupAdd, inetGroup] <:+: behind := by
  induction front with
  | nil => rfl
  | cons word front ih =>
      have rest := ih fun other member => apart other (.tail _ member)
      rw [List.cons_append, List.infix_cons_iff, List.cons_prefix_cons, rest]
      simp [(apart word (.head _)).symm]

/-- The wrapper finds the group exactly if an option adds it, or the words behind the command look like
such an option. -/
theorem scan_inetGroup : (scanArguments command.words).explicitInetGroup = true ↔
    (∃ option ∈ command.options, option.addsInetGroup = true) ∨
      groupAddInet ∈ command.otherWords ∨ [groupAdd, inetGroup] <:+: command.behind := by
  have front : groupAddInet ∉ command.front := fun member => (front_reads member).2.2.1 rfl
  have first : ∀ word ∈ [] :: command.front, word ≠ groupAdd := by
    intro word member
    rcases List.mem_cons.mp member with rfl | member
    · decide
    · exact (front_reads member).2.2.2
  have start : ([] : Word) :: command.words = ([] :: command.front) ++ command.behind := rfl
  rw [scanArguments, foldl_explicitInetGroup, start, pair_infix_front first, words, List.mem_append,
    mem_behind]
  constructor
  · rintro (never | (inFront | ⟨option, member, token⟩ | other) | pair)
    · cases never
    · exact absurd inFront front
    · exact .inl ⟨option, member, by simp [DockerOption.addsInetGroup, token]⟩
    · exact .inr (.inl other)
    · exact .inr (.inr pair)
  · rintro (⟨option, member, adds⟩ | other | pair)
    · rw [DockerOption.addsInetGroup, Bool.or_eq_true, beq_iff_eq, beq_iff_eq] at adds
      rcases adds with rfl | token
      · exact .inr (.inr (option_words_follow member))
      · exact .inr (.inl (.inr (.inl ⟨option, member, token⟩)))
    · exact .inr (.inl (.inr (.inr other)))
    · exact .inr (.inr pair)

theorem commandIndex_words : commandIndex command.words = some (command.front.length - 1) := by
  have verb := command.isRun
  have container : "container".toList ∉ runWords := by decide
  rw [words, front]
  split
  · rw [List.cons_append, commandIndex, if_neg container, if_pos ⟨rfl, command.verb, rfl, verb⟩]
    rfl
  · rw [List.cons_append, commandIndex, if_pos verb]
    rfl

/-- The words that are injected stand between the name of the command and everything behind it. -/
theorem rewritten_words (settings : WrapperSettings) :
    rewritten settings command.words (command.front.length - 1) =
      command.front ++ injected settings (scanArguments command.words) ++ command.behind := by
  have some : command.front.length - 1 + 1 = command.front.length := by
    rw [front]
    split <;> rfl
  rw [rewritten, some]
  generalize injected settings (scanArguments command.words) = block
  split
  next => rw [words, List.take_left, List.drop_left]
  next empty =>
    have nothing : block = [] := List.eq_nil_of_length_eq_zero (Nat.eq_zero_of_not_pos empty)
    rw [nothing, List.append_nil, words]

/-! ### The block -/

/-- A block of options. -/
def block (ipc inetGroup network : Bool) : List Word :=
  (if ipc then ["--ipc=host".toList] else []) ++
  (if inetGroup then [groupAdd, Docker.inetGroup] else []) ++
  (if network then ["--network".toList, "host".toList] else [])

/-- The options of a block are those it was made with. -/
theorem block_contains : ∀ ipc inetGroup network : Bool,
    (["--ipc=host".toList] <:+: block ipc inetGroup network ↔ ipc = true) ∧
    ([groupAdd, Docker.inetGroup] <:+: block ipc inetGroup network ↔ inetGroup = true) ∧
    (["--network".toList, "host".toList] <:+: block ipc inetGroup network ↔ network = true) := by
  decide

/-- What is injected are up to three blocks in a fixed order, each for itself wanted or not. -/
theorem injected_eq (settings : WrapperSettings) (scan : ArgumentScan) :
    injected settings scan = block (decide (settings.hostIpc = trueWord ∧ scan.explicitIpc = false))
      (!scan.explicitInetGroup)
      (decide (settings.hostNetwork = trueWord ∧ scan.explicitNetwork = false)) := by
  simp only [injected, block, decide_eq_true_eq]
  cases scan.explicitInetGroup <;> rfl

/-- Adding what is on and has not been seen is right exactly if it is off, or chosen in the options, or
nothing else has been seen. -/
theorem agree_iff {on chosen other : Prop} :
    ((on ∧ ¬(chosen ∨ other)) ↔ (on ∧ ¬chosen)) ↔ (¬on ∨ chosen ∨ ¬other) := by
  tauto

/-- That no option is of a kind is the contrary of there being one. -/
theorem forall_false_iff {options : List DockerOption} {holds : DockerOption → Bool} :
    (∀ option ∈ options, holds option = false) ↔ ¬∃ option ∈ options, holds option = true := by
  simp

/-- That no word is of a kind is the contrary of there being one. -/
theorem forall_words_iff {words : List Word} {holds : Word → Bool} :
    (∀ word ∈ words, holds word = false) ↔ ¬∃ word ∈ words, holds word = true := by
  simp

/-- When the wrapper is right about each of the three choices. -/
theorem ipc_agrees (settings : WrapperSettings) :
    (["--ipc=host".toList] <:+: injected settings (scanArguments command.words) ↔
      settings.hostIpc = trueWord ∧ ∀ option ∈ command.options, option.isIpc = false) ↔
    (settings.hostIpc ≠ trueWord ∨ (∃ option ∈ command.options, option.isIpc = true) ∨
      ∀ word ∈ command.otherWords, readsIpc word = false) := by
  rw [injected_eq, (block_contains _ _ _).1, decide_eq_true_eq, ← Bool.not_eq_true, scan_ipc,
    forall_false_iff, forall_words_iff]
  exact agree_iff

/-- The group is added exactly when no option adds it, unless another word is taken for such an option.
-/
theorem inetGroup_agrees (settings : WrapperSettings) :
    ([groupAdd, inetGroup] <:+: injected settings (scanArguments command.words) ↔
      ∀ option ∈ command.options, option.addsInetGroup = false) ↔
    ((∃ option ∈ command.options, option.addsInetGroup = true) ∨
      (groupAddInet ∉ command.otherWords ∧ ¬[groupAdd, inetGroup] <:+: command.behind)) := by
  rw [injected_eq, (block_contains _ _ _).2.1, Bool.not_eq_true', ← Bool.not_eq_true, scan_inetGroup,
    forall_false_iff, ← not_or]
  simpa only [true_and, not_true, false_or] using @agree_iff True
    (∃ option ∈ command.options, option.addsInetGroup = true)
    (groupAddInet ∈ command.otherWords ∨ [groupAdd, inetGroup] <:+: command.behind)

/-- The host network is injected exactly when it is configured and no option names a network, unless
another word is taken for such an option. -/
theorem network_agrees (settings : WrapperSettings) :
    (["--network".toList, "host".toList] <:+: injected settings (scanArguments command.words) ↔
      settings.hostNetwork = trueWord ∧ ∀ option ∈ command.options, option.isNetwork = false) ↔
    (settings.hostNetwork ≠ trueWord ∨ (∃ option ∈ command.options, option.isNetwork = true) ∨
      ∀ word ∈ command.otherWords, readsNetwork word = false) := by
  rw [injected_eq, (block_contains _ _ _).2.2, decide_eq_true_eq, ← Bool.not_eq_true, scan_network,
    forall_false_iff, forall_words_iff]
  exact agree_iff

/-- The client is executed with a block behind the command. -/
theorem dockerWrapper_words {environment : WrapperEnvironment}
    (executable : environment.dockerExecutable = true) :
    dockerWrapper environment command.words = .exec (command.front ++
      injected (readSettings environment.conf) (scanArguments command.words) ++ command.behind) none := by
  simp only [dockerWrapper, executable, commandIndex_words, rewritten_words, Bool.true_eq_false,
    if_false]

/-- For any decomposition of a command into options and the rest, the wrapper injects exactly what is
missing if and only if no word of the rest disturbs its scan. -/
theorem injects_words_iff {environment : WrapperEnvironment}
    (executable : environment.dockerExecutable = true) :
    command.Injects (readSettings environment.conf) (dockerWrapper environment command.words) ↔
      command.Undisturbed (readSettings environment.conf) := by
  have outcome : dockerWrapper environment command.words = _ := dockerWrapper_words executable
  constructor
  · rintro ⟨added, same, ipc, inetGroup, network⟩
    have commands := (WrapperOutcome.exec.inj (outcome.symm.trans same)).1
    have blocks := List.append_cancel_left (List.append_cancel_right commands)
    rw [← blocks] at ipc inetGroup network
    exact ⟨(ipc_agrees _).mp ipc, (inetGroup_agrees _).mp inetGroup, (network_agrees _).mp network⟩
  · intro undisturbed
    exact ⟨_, outcome, (ipc_agrees _).mpr undisturbed.ipc,
      (inetGroup_agrees _).mpr undisturbed.inetGroup, (network_agrees _).mpr undisturbed.network⟩

end RunCommand

/-- A command that is neither `run` nor `create` nor one of Compose. -/
theorem commandIndex_of_other {arguments : List Word}
    (other : ∀ command : RunCommand, arguments ≠ command.words) : commandIndex arguments = none := by
  cases arguments with
  | nil => rfl
  | cons first rest =>
      by_cases run : first ∈ runWords
      · exact absurd rfl (other ⟨false, first, run, [], rest⟩)
      rw [commandIndex, if_neg run, if_neg]
      rintro ⟨rfl, second, begins, isRun⟩
      cases rest with
      | nil => cases begins
      | cons next rest =>
          cases begins
          exact other ⟨true, _, isRun, [], rest⟩ rfl

/-- For every configuration the wrapper adds to `run` and `create` exactly what is on and not chosen in
their options, if and only if no other word reads as a choice that matters; and it changes no other
command but those of Compose. -/
theorem injects_iff {environment : WrapperEnvironment}
    (executable : environment.dockerExecutable = true) :
    (∀ command : RunCommand,
      command.Injects (readSettings environment.conf)
        (dockerWrapper environment (command.front ++ command.behind)) ↔
      command.Undisturbed (readSettings environment.conf)) ∧
    ∀ arguments, (∀ command : RunCommand, arguments ≠ command.front ++ command.behind) →
      arguments.head? ≠ some composeWord → dockerWrapper environment arguments = .exec arguments none := by
  refine ⟨fun command => RunCommand.injects_words_iff executable, fun arguments other compose => ?_⟩
  have index := commandIndex_of_other other
  cases arguments with
  | nil => simp only [dockerWrapper, executable, index, Bool.true_eq_false, if_false]
  | cons first rest =>
      have apart : first ≠ composeWord := fun same => compose (congrArg some same)
      simp only [dockerWrapper, executable, index, apart, Bool.true_eq_false, if_false]

/-- A system with the client and no settings file. -/
def plainHost : WrapperEnvironment where
  dockerExecutable := true
  conf := none
  query _ _ := []
  isFile _ := false
  mktemp := none

/-- `docker run --rm alpine PROGRAM --ipc=host`, where the last word is an argument of the program. -/
def strayArgument : RunCommand where
  grouped := false
  verb := "run".toList
  isRun := by decide
  options := [.alone "--rm".toList]
  imageAndArgs := ["alpine", "prog", "--ipc=host"].map String.toList

theorem injects_iff_stray :
    strayArgument.Injects (readSettings none)
        (dockerWrapper plainHost (strayArgument.front ++ strayArgument.behind)) ↔
      strayArgument.Undisturbed (readSettings none) :=
  (@injects_iff plainHost rfl).1 strayArgument

/-- The argument of the program counts as a choice of the user, since the wrapper looks at all words and
not only at the options. -/
theorem injects_not_always : ¬∀ (environment : WrapperEnvironment) (command : RunCommand),
    environment.dockerExecutable = true →
    command.Injects (readSettings environment.conf)
      (dockerWrapper environment (command.front ++ command.behind)) := by
  intro always
  have undisturbed := (RunCommand.injects_words_iff rfl).mp (always plainHost strayArgument rfl)
  rcases undisturbed.ipc with off | chosen | clean
  · exact off rfl
  · exact absurd chosen (by decide)
  · exact absurd (clean "--ipc=host".toList (by decide)) (by decide)

end DawnShell.Docker
