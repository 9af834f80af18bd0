/-
Module: DawnShell.Proofs.ComposeProject
Layer: Proofs
Purpose: The project files of a Compose command behind the wrapper.  Compose reads its global options and
  looks for files of its own; the wrapper does both again, and the files are the same exactly if the user
  names them in a spelling that the wrapper knows, or there is nothing for it to add or to choose from.
Trusted boundary: the global options of Compose with a value in the next word are a parameter, and the
  theorems about the wrapper assume that they are the words of its table.  Without named files Compose takes
  the first base file of its search order and the first override file of another, both in the working
  directory; the orders are parameters.
Main exports: globals, Tabled, namedFile, ComposeSearch, loaded, Kept, Resolved, project_kept_iff
-/
import DawnShell.Proofs.WrapperInjection

namespace DawnShell.Docker

/-! ### Statement -/

/-- The global options of Compose and what stands from the subcommand on, where the options `valued` have
their value in the next word. -/
def globals (valued : Word → Bool) : List Word → List DockerOption × List Word
  | [] => ([], [])
  | [word] => if word.head? = some '-' then ([.alone word], []) else ([], [word])
  | word :: next :: rest =>
      if valued word then (.valued word next :: (globals valued rest).1, (globals valued rest).2)
      else if word.head? = some '-' then
        (.alone word :: (globals valued (next :: rest)).1, (globals valued (next :: rest)).2)
      else ([], word :: next :: rest)

/-- The options of Compose with a value in the next word are those that the wrapper knows: `-f`, `--file`,
`-p`, `--project-name`, `--project-directory`, `--profile`, `--env-file`, `--parallel`, `--progress` and
`--ansi`. -/
def Tabled (valued : Word → Bool) : Prop :=
  ∀ word, valued word ↔ word ∈ valueOptions

/-- The options of the wrapper's table, as those of a Compose that it knows all of. -/
def tableOptions (word : Word) : Bool := word ∈ valueOptions

theorem tabled_tableOptions : Tabled tableOptions := fun _ => decide_eq_true_iff

/-- The project file that an option names: `-f F`, `--file F`, `--file=F`, `-f=F` or `-fF`. -/
def namedFile : DockerOption → Option Word
  | .valued token value => if token = fileOption ∨ token = longFileOption then some value else none
  | .alone token =>
      if "--file=".toList.isPrefixOf token then some (token.drop 7)
      else if "-f=".toList.isPrefixOf token then some (token.drop 3)
      else if fileOption.isPrefixOf token then some (token.drop 2)
      else none

/-- The names of a project file. -/
def baseNames : List Word :=
  ["compose.yaml", "compose.yml", "docker-compose.yaml", "docker-compose.yml"].map String.toList

/-- The names of a file that overrides it. -/
def overrideNames : List Word :=
  ["compose.override.yaml", "compose.override.yml", "docker-compose.override.yaml",
    "docker-compose.override.yml"].map String.toList

/-- The orders in which Compose looks for these names. -/
structure ComposeSearch where
  bases : List Word
  overrides : List Word
  ofBases : bases.Perm baseNames
  ofOverrides : overrides.Perm overrideNames

/-- The files that Compose finds by itself. -/
def ComposeSearch.discovered (search : ComposeSearch) (isFile : Word → Bool) : List Word :=
  match search.bases.find? isFile with
  | none => []
  | some base => base :: (search.overrides.find? isFile).toList

/-- The project files of a command with these options. -/
def loaded (search : ComposeSearch) (isFile : Word → Bool) (options : List DockerOption) : List Word :=
  if options.filterMap namedFile = [] then search.discovered isFile else options.filterMap namedFile

/-- The command that is executed has the subcommand of the user's command and all behind it, begins with
the user's options and loads the same project files, but for the override at the end if there is one. -/
def Kept (environment : WrapperEnvironment) (valued : Word → Bool) (search : ComposeSearch)
    (behind command : List Word) (written : Option (List Char)) : Prop :=
  ∃ final, command = composeWord :: final ∧ (globals valued final).2 = (globals valued behind).2 ∧
    match written with
    | none =>
        (globals valued behind).1 <+: (globals valued final).1 ∧
        loaded search environment.isFile (globals valued final).1 =
          loaded search environment.isFile (globals valued behind).1
    | some _ => ∃ front override, environment.mktemp = some override ∧
        (globals valued final).1 = front ++ [.valued fileOption override] ∧
        (globals valued behind).1 <+: front ∧
        loaded search environment.isFile (globals valued final).1 =
          loaded search environment.isFile (globals valued behind).1 ++ [override]

/-- One base file and one override file at the most, and no override file alone. -/
structure Unambiguous (isFile : Word → Bool) : Prop where
  base : (baseNames.filter isFile).length ≤ 1
  override : (overrideNames.filter isFile).length ≤ 1
  accompanied : baseNames.filter isFile = [] → overrideNames.filter isFile = []

/-- The services that the client names for a command with these options. -/
def servicesOf (environment : WrapperEnvironment) (options : List DockerOption) : List Char :=
  substituted (environment.query 1 (composeWord :: options.flatMap DockerOption.words ++
    ["config", "--services"].map String.toList))

/-- The client names no service; or the files are named with a word `-f` or `--file`, or named otherwise
where there is no file to discover; or none is named and Compose has no choice, or none is named, a value
is such a word and there is no base file. -/
def Resolved (environment : WrapperEnvironment) (options : List DockerOption) : Prop :=
  servicesOf environment options = [] ∨
    if options.filterMap namedFile = [] then
      if explicitFiles (options.flatMap DockerOption.words) then
        ∀ base ∈ baseNames, environment.isFile base = false
      else Unambiguous environment.isFile
    else explicitFiles (options.flatMap DockerOption.words) = true ∨
      ∀ candidate ∈ composeCandidates, environment.isFile candidate = false

/-! ### Global options -/

/-- An option that Compose reads as one: a value is in the next word exactly behind the valued options. -/
def IsGlobal (valued : Word → Bool) : DockerOption → Prop
  | .alone token => token.head? = some '-' ∧ ¬valued token
  | .valued token _ => valued token

section Globals

variable {valued : Word → Bool} {behind arguments : List Word} {options : List DockerOption} {action : Word}

theorem action_plain (starting : action ∈ startingActions) :
    action ∉ valueOptions ∧ action.head? ≠ some '-' := by
  have plain : ∀ action ∈ startingActions, action ∉ valueOptions ∧ action.head? ≠ some '-' := by decide
  exact plain action starting

/-- The options in front and what follows them are the words of the command again: none is lost and none
is read twice. -/
theorem globals_words (valued : Word → Bool) (behind : List Word) :
    (globals valued behind).1.flatMap DockerOption.words ++ (globals valued behind).2 = behind := by
  induction behind using (globals.induct valued) with
  | case1 => rfl
  | case2 word option => simp [globals, option, DockerOption.words]
  | case3 word other => simp [globals, other]
  | case4 word next rest valued ih => simp [globals, valued, DockerOption.words, ih]
  | case5 word next rest plain option ih =>
      rw [globals, if_neg plain, if_pos option, List.flatMap_cons, List.append_assoc, ih]
      rfl
  | case6 word next rest plain other => simp [globals, plain, other]

/-- The names of options are no subcommands. -/
theorem option_plain {word : Word} (option : word ∈ valueOptions ∨ word.head? = some '-') :
    word ∉ startingActions ∧ word ∉ otherActions := by
  have starting : ∀ action ∈ startingActions, action ∉ valueOptions ∧ action.head? ≠ some '-' := by decide
  have other : ∀ action ∈ otherActions, action ∉ valueOptions ∧ action.head? ≠ some '-' := by decide
  constructor
  · intro member
    rcases option with valued | dash
    · exact (starting word member).1 valued
    · exact (starting word member).2 dash
  · intro member
    rcases option with valued | dash
    · exact (other word member).1 valued
    · exact (other word member).2 dash

/-- Options and a subcommand are read as they are: words that come from options are cut into these
options again, up to the subcommand. -/
theorem globals_append (tabled : Tabled valued) (all : ∀ option ∈ options, IsGlobal valued option)
    (starting : action ∈ startingActions) (arguments : List Word) :
    globals valued (options.flatMap DockerOption.words ++ action :: arguments) =
      (options, action :: arguments) := by
  obtain ⟨unlisted, noDash⟩ := action_plain starting
  have noOption : ¬valued action := fun member => unlisted ((tabled action).mp member)
  induction options with
  | nil =>
      cases arguments with
      | nil => exact if_neg noDash
      | cons argument arguments =>
          rw [List.flatMap_nil, List.nil_append, globals, if_neg noOption, if_neg noDash]
  | cons option options ih =>
      have rest := ih fun other member => all other (.tail _ member)
      have here := all option (.head _)
      cases option with
      | valued token value =>
          have separate : valued token := here
          rw [List.flatMap_cons, List.append_assoc]
          show globals valued
            (token :: value :: (options.flatMap DockerOption.words ++ action :: arguments)) = _
          rw [globals, if_pos separate, rest]
      | alone token =>
          obtain ⟨dash, plain⟩ : token.head? = some '-' ∧ ¬valued token := here
          rw [List.flatMap_cons, List.append_assoc]
          show globals valued (token :: (options.flatMap DockerOption.words ++ action :: arguments)) = _
          obtain ⟨next, more, begins⟩ := List.exists_cons_of_ne_nil
            (List.append_ne_nil_of_right_ne_nil (options.flatMap DockerOption.words)
              (List.cons_ne_nil action arguments))
          rw [begins] at rest ⊢
          rw [globals, if_neg plain, if_pos dash, rest]

/-- In front of a subcommand Compose reads options, each of which has its value in the next word exactly
if it is one of the valued ones. -/
theorem globals_global (some : (globals valued behind).2 ≠ []) :
    ∀ option ∈ (globals valued behind).1, IsGlobal valued option := by
  induction behind using (globals.induct valued) with
  | case1 => exact absurd rfl some
  | case2 word option =>
      rw [globals, if_pos option] at some
      exact absurd rfl some
  | case3 word other =>
      rw [globals, if_neg other]
      exact fun option member => absurd member List.not_mem_nil
  | case4 word next rest separate ih =>
      rw [globals, if_pos separate] at some ⊢
      intro option member
      rcases List.mem_cons.mp member with rfl | later
      · exact separate
      · exact ih some option later
  | case5 word next rest plain dash ih =>
      rw [globals, if_neg plain, if_pos dash] at some ⊢
      intro option member
      rcases List.mem_cons.mp member with rfl | later
      · exact ⟨dash, plain⟩
      · exact ih some option later
  | case6 word next rest plain other =>
      rw [globals, if_neg plain, if_neg other]
      exact fun option member => absurd member List.not_mem_nil

/-- The wrapper finds the options and the subcommand that Compose reads, since its table has the options
with a value in the next word. -/
theorem composeScan_eq (tabled : Tabled valued)
    (reads : (globals valued behind).2 = action :: arguments) (starting : action ∈ startingActions) :
    composeScan behind =
      ⟨(globals valued behind).1.flatMap DockerOption.words, some (action :: arguments)⟩ := by
  induction behind using (globals.induct valued) with
  | case1 => cases reads
  | case2 word dash =>
      rw [globals, if_pos dash] at reads
      cases reads
  | case3 word other =>
      rw [globals, if_neg other] at reads
      cases reads
      rw [composeScan, if_pos starting, globals, if_neg other]
      rfl
  | case4 word next rest separate ih =>
      have listed := (tabled word).mp separate
      obtain ⟨noStart, noOther⟩ := option_plain (.inl listed)
      rw [globals, if_pos separate] at reads
      rw [composeScan, if_neg noStart, if_neg noOther, if_pos listed, ih reads, globals,
        if_pos separate]
      rfl
  | case5 word next rest plain dash ih =>
      have unlisted : word ∉ valueOptions := fun member => plain ((tabled word).mpr member)
      obtain ⟨noStart, noOther⟩ := option_plain (.inr dash)
      rw [globals, if_neg plain, if_pos dash] at reads
      rw [composeScan, if_neg noStart, if_neg noOther, if_neg unlisted, ih reads, globals, if_neg plain,
        if_pos dash]
      rfl
  | case6 word next rest plain other =>
      rw [globals, if_neg plain, if_neg other] at reads
      cases reads
      rw [composeScan, if_pos starting, globals, if_neg plain, if_neg other]
      rfl

end Globals

/-! ### Project files -/

section Files

variable {search : ComposeSearch} {isFile : Word → Bool} {options : List DockerOption}

theorem composeCandidates_eq : composeCandidates = baseNames ++ overrideNames := rfl

/-- Compose takes the first names that are there. -/
theorem discovered_eq (search : ComposeSearch) (isFile : Word → Bool) :
    search.discovered isFile = match search.bases.filter isFile with
      | [] => []
      | base :: _ => base :: (search.overrides.filter isFile).head?.toList := by
  rw [ComposeSearch.discovered, ← List.head?_filter, ← List.head?_filter]
  cases search.bases.filter isFile <;> rfl

/-- Compose discovers no file exactly if none of the base names is there, whatever overrides there are.
-/
theorem discovered_eq_nil :
    search.discovered isFile = [] ↔ ∀ base ∈ baseNames, isFile base = false := by
  have names : (∀ base ∈ baseNames, isFile base = false) ↔ search.bases.filter isFile = [] := by
    rw [List.filter_eq_nil_iff]
    exact ⟨fun none base member => by simp [none base (search.ofBases.mem_iff.mp member)],
      fun none base member => by simpa using none base (search.ofBases.mem_iff.mpr member)⟩
  rw [names, discovered_eq]
  cases search.bases.filter isFile <;> simp

/-- All candidates that are there are what Compose finds exactly if it has no choice. -/
theorem candidates_eq_discovered :
    composeCandidates.filter isFile = search.discovered isFile ↔ Unambiguous isFile := by
  have bases : (search.bases.filter isFile).Perm (baseNames.filter isFile) := search.ofBases.filter isFile
  have overrides : (search.overrides.filter isFile).Perm (overrideNames.filter isFile) :=
    search.ofOverrides.filter isFile
  have size := bases.length_eq
  have number := overrides.length_eq
  rw [composeCandidates_eq, List.filter_append, discovered_eq]
  constructor
  · intro same
    have length := congrArg List.length same
    rw [List.length_append] at length
    cases found : search.bases.filter isFile with
    | nil =>
        rw [found] at same size
        obtain ⟨noBase, noOverride⟩ := List.append_eq_nil_iff.mp same
        exact ⟨by simp [noBase], by simp [noOverride], fun _ => noOverride⟩
    | cons base more =>
        rw [found] at length size
        rw [List.length_cons] at length size
        cases others : search.overrides.filter isFile with
        | nil =>
            rw [others] at length number
            simp only [List.head?_nil, Option.toList_none, List.length_nil] at length number
            have none : overrideNames.filter isFile = [] := List.eq_nil_of_length_eq_zero number.symm
            exact ⟨by omega, by omega, fun _ => none⟩
        | cons override rest =>
            rw [others] at length number
            simp only [List.head?_cons, Option.toList_some, List.length_cons, List.length_nil]
              at length number
            refine ⟨by omega, by omega, fun none => ?_⟩
            rw [none, List.length_nil] at size
            omega
  · intro one
    cases found : search.bases.filter isFile with
    | nil =>
        rw [found] at bases
        have none := List.perm_nil.mp bases.symm
        rw [none, one.accompanied none, List.append_nil]
    | cons base more =>
        have single : more = [] := by
          have atMost := one.base
          rw [← size, found, List.length_cons] at atMost
          exact List.eq_nil_of_length_eq_zero (by omega)
        rw [found, single] at bases
        rw [List.perm_singleton.mp bases.symm]
        cases others : search.overrides.filter isFile with
        | nil =>
            rw [others] at overrides
            rw [List.perm_nil.mp overrides.symm]
            rfl
        | cons override rest =>
            have alone : rest = [] := by
              have atMost := one.override
              rw [← number, others, List.length_cons] at atMost
              exact List.eq_nil_of_length_eq_zero (by omega)
            rw [others, alone] at overrides
            rw [List.perm_singleton.mp overrides.symm]
            rfl

/-- The options that the wrapper adds for the files it finds. -/
def replayedFiles (isFile : Word → Bool) (options : List DockerOption) : List Word :=
  if explicitFiles (options.flatMap DockerOption.words) then [] else composeCandidates.filter isFile

/-- An option that names a file. -/
def fileOptionOf (file : Word) : DockerOption := .valued fileOption file

/-- The words that the wrapper replays are those of the options and one more option for each file that
it has found. -/
theorem replayed_words : replayed isFile (options.flatMap DockerOption.words) =
    (options ++ (replayedFiles isFile options).map fileOptionOf).flatMap DockerOption.words := by
  rw [replayed, replayedFiles]
  split
  · rw [List.map_nil, List.append_nil]
  · rw [List.flatMap_append, List.flatMap_map]
    rfl

/-- An option that the wrapper adds names its file. -/
theorem namedFile_fileOptionOf (file : Word) : namedFile (fileOptionOf file) = some file := by
  rw [fileOptionOf, namedFile, if_pos (.inl rfl)]

/-- The files of the user's options, those that are added and one at the end. -/
theorem loaded_replayed (files : List Word) (override : Word) :
    loaded search isFile (options ++ files.map fileOptionOf ++ [fileOptionOf override]) =
      options.filterMap namedFile ++ files ++ [override] := by
  have each : (files.map fileOptionOf).filterMap namedFile = files := by
    rw [List.filterMap_map]
    have same : namedFile ∘ fileOptionOf = some := funext namedFile_fileOptionOf
    rw [same, List.filterMap_some]
  have last : [fileOptionOf override].filterMap namedFile = [override] := by
    rw [List.filterMap_cons_some (namedFile_fileOptionOf override), List.filterMap_nil]
  rw [loaded, List.filterMap_append, List.filterMap_append, each, last, if_neg (by simp)]

/-- When the files that are added are those that are missing. -/
theorem replayedFiles_iff (search : ComposeSearch) :
    options.filterMap namedFile ++ replayedFiles isFile options = loaded search isFile options ↔
      if options.filterMap namedFile = [] then
        if explicitFiles (options.flatMap DockerOption.words) then
          ∀ base ∈ baseNames, isFile base = false
        else Unambiguous isFile
      else explicitFiles (options.flatMap DockerOption.words) = true ∨
        ∀ candidate ∈ composeCandidates, isFile candidate = false := by
  rw [loaded, replayedFiles]
  by_cases none : options.filterMap namedFile = []
  · rw [if_pos none, if_pos none, none, List.nil_append]
    split
    · rw [eq_comm, discovered_eq_nil]
    · exact candidates_eq_discovered
  · rw [if_neg none, if_neg none, List.append_right_eq_self]
    split
    next explicit => simp [explicit]
    next unseen => simp [unseen]

end Files

/-! ### The command that is executed -/

section Command

variable {environment : WrapperEnvironment} {search : ComposeSearch}
  {valued : Word → Bool} {behind command arguments : List Word} {action : Word}
  {written : Option (List Char)}

theorem commandIndex_compose (behind : List Word) : commandIndex (composeWord :: behind) = none := by
  have noRun : composeWord ∉ runWords := by decide
  have noGroup : composeWord ≠ "container".toList := by decide
  rw [commandIndex, if_neg noRun, if_neg fun group => noGroup group.1]

/-- What is executed for a subcommand that starts containers: the command as it came when the client
names no service, and otherwise the command with the files that were found and the override behind its
options. -/
theorem compose_outcome (tabled : Tabled valued)
    (reads : (globals valued behind).2 = action :: arguments) (starting : action ∈ startingActions)
    (runs : dockerWrapper environment (composeWord :: behind) = .exec command written) :
    (servicesOf environment (globals valued behind).1 = [] ∧ command = composeWord :: behind ∧
      written = none) ∨
    (servicesOf environment (globals valued behind).1 ≠ [] ∧
      ∃ override text, environment.mktemp = some override ∧ written = some text ∧
        command = composeWord :: (((globals valued behind).1 ++
          (replayedFiles environment.isFile (globals valued behind).1).map fileOptionOf ++
          [fileOptionOf override]).flatMap DockerOption.words ++ action :: arguments)) := by
  unfold dockerWrapper at runs
  simp only [commandIndex_compose, if_true] at runs
  split at runs
  · cases runs
  · simp only [composeCommand, composeScan_eq tabled reads starting, replayed_words] at runs
    split at runs
    next none =>
      cases runs
      exact .inl ⟨none, rfl, rfl⟩
    next some =>
      cases made : environment.mktemp with
      | none =>
          rw [made] at runs
          cases runs
      | some override =>
          rw [made] at runs
          cases runs
          refine .inr ⟨some, override, _, rfl, rfl, ?_⟩
          simp only [List.flatMap_append, List.flatMap_singleton, List.cons_append, List.append_assoc]
          rfl

/-- The project is kept exactly when it is resolved as Compose would: the two cases of the outcome are
compared with the files that Compose loads. -/
theorem kept_iff (tabled : Tabled valued) (reads : (globals valued behind).2 = action :: arguments)
    (starting : action ∈ startingActions)
    (runs : dockerWrapper environment (composeWord :: behind) = .exec command written) :
    Kept environment valued search behind command written ↔
      Resolved environment (globals valued behind).1 := by
  rcases compose_outcome tabled reads starting runs with
    ⟨none, rfl, rfl⟩ | ⟨some, override, text, made, rfl, rfl⟩
  · exact iff_of_true ⟨behind, rfl, rfl, List.prefix_rfl, rfl⟩ (.inl none)
  · have all : ∀ option ∈ (globals valued behind).1 ++
        (replayedFiles environment.isFile (globals valued behind).1).map fileOptionOf ++
        [fileOptionOf override], IsGlobal valued option := by
      have named : valued fileOption := (tabled fileOption).mpr (by decide)
      intro option member
      rcases List.mem_append.mp member with user | last
      · rcases List.mem_append.mp user with own | added
        · exact globals_global (by rw [reads]; exact List.cons_ne_nil _ _) option own
        · obtain ⟨file, within, rfl⟩ := List.mem_map.mp added
          exact named
      · rw [List.mem_singleton.mp last]
        exact named
    have final := globals_append tabled all starting arguments
    rw [Resolved, or_iff_right some, ← replayedFiles_iff search]
    constructor
    · rintro ⟨_, same, _, front, last, made', ends, _, files⟩
      rw [← (List.cons.inj same).2, final] at ends files
      have name : override = last := Option.some.inj (made.symm.trans made')
      rw [loaded_replayed, ← name] at files
      exact List.append_cancel_right files
    · intro files
      refine ⟨_, rfl, by rw [final, reads], (globals valued behind).1 ++
        (replayedFiles environment.isFile (globals valued behind).1).map fileOptionOf, override, made,
        ?_, ?_, ?_⟩
      · rw [final]
        rfl
      · exact List.prefix_append _ _
      · rw [final, loaded_replayed, files]

end Command

/-- For every Compose command whose subcommand starts containers and all files in the working directory,
what is executed keeps the options, the subcommand and all behind it, and loads the files that Compose
would, exactly if the client names no service or the wrapper resolves the files as Compose does. -/
theorem project_kept_iff {environment : WrapperEnvironment} {search : ComposeSearch}
    {valued : Word → Bool} {behind command arguments : List Word} {action : Word}
    {written : Option (List Char)}
    (tabled : Tabled valued) (reads : (globals valued behind).2 = action :: arguments)
    (starting : action ∈ startingActions)
    (runs : dockerWrapper environment (composeWord :: behind) = .exec command written) :
    Kept environment valued search behind command written ↔
      Resolved environment (globals valued behind).1 :=
  kept_iff tabled reads starting runs

/-- Compose as it looks for the names in the wrapper's order. -/
def listedSearch : ComposeSearch where
  bases := baseNames
  overrides := overrideNames
  ofBases := .refl _
  ofOverrides := .refl _

/-- A directory with a project of one service. -/
def projectHost : WrapperEnvironment where
  dockerExecutable := true
  conf := none
  query _ _ := "web\n".toList
  isFile name := name == "compose.yaml".toList
  mktemp := some "/tmp/dawnshell-compose-ipc.AAAAAA.yml".toList

/-- `docker compose -p demo up` in that directory, which names no file in any spelling. -/
theorem project_kept_iff_up : ∃ command written,
    dockerWrapper projectHost (composeWord :: ["-p", "demo", "up"].map String.toList) =
      .exec command written ∧
    (Kept projectHost tableOptions listedSearch (["-p", "demo", "up"].map String.toList) command written ↔
      Resolved projectHost (globals tableOptions (["-p", "demo", "up"].map String.toList)).1) :=
  ⟨_, _, rfl, @project_kept_iff projectHost listedSearch tableOptions _ _ [] _ _ tabled_tableOptions rfl
    (by decide) rfl⟩

/-- With `--file=prod.yml` the file of the directory is loaded as well, because the wrapper does not
know this spelling as a named file. -/
theorem project_not_kept : ¬∀ (environment : WrapperEnvironment) (search : ComposeSearch)
    (valued : Word → Bool) (behind command arguments : List Word) (action : Word)
    (written : Option (List Char)),
    Tabled valued → (globals valued behind).2 = action :: arguments → action ∈ startingActions →
    dockerWrapper environment (composeWord :: behind) = .exec command written →
    Kept environment valued search behind command written := by
  intro kept
  have reads : (globals tableOptions ["--file=prod.yml".toList, "up".toList]).2 = ["up".toList] := by
    decide
  have resolved := (kept_iff tabled_tableOptions reads (by decide) rfl).mp
    (kept projectHost listedSearch _ _ _ _ _ _ tabled_tableOptions reads (by decide) rfl)
  rcases resolved with none | rest
  · exact absurd none (by decide)
  · rw [if_neg (by decide)] at rest
    rcases rest with explicit | clean
    · exact absurd explicit (by decide)
    · exact absurd (clean "compose.yaml".toList (by decide)) (by decide)

end DawnShell.Docker
